/-
Planning only asks questions, so what is planned is a function of the tree
of files. `Files.reader` answers from a tree that stays as it is, without
any state around; work that asks it is plain work with events and failures.

Two facts carry everything that follows. `plan_mirrors`: a host that answers
like a tree gives the plan of that tree and is left as it was. And
`wanted_follows`: a tree that has grown from another one, away from the
settings, the document and the templates, is to have the same files as that
one.
-/
import OpenApiTypes.Project.Generate
import OpenApiTypes.Proofs.Project.Growth

namespace OpenApiTypes

variable {α β σ : Type}

namespace Work

-- ======================================================== plain work

/-- What some work comes to, after some events, that has nothing else around
it. -/
def result (work : Work Id α) (told : List Event) : Except Failure α × List Event :=
  StateT.run (ExceptT.run work) told

/-- What some work comes to, after some events, in a state, with the state it
leaves. -/
def on (work : Work (StateM σ) α) (told : List Event) (s : σ) :
    (Except Failure α × List Event) × σ :=
  StateT.run (StateT.run (ExceptT.run work) told) s

theorem result_bind (x : Work Id α) (f : α → Work Id β) (told : List Event) :
    (x >>= f).result told =
      match x.result told with
      | (.ok a, told) => (f a).result told
      | (.error failure, told) => (.error failure, told) := by
  simp only [result, ExceptT.run_bind, StateT.run_bind]
  generalize StateT.run (ExceptT.run x) told = reached
  obtain ⟨reached | reached, told⟩ := reached <;> rfl

/-- Work in two parts comes to something when both do. -/
theorem result_bind_eq_ok {x : Work Id α} {f : α → Work Id β} {told told' : List Event} {b : β} :
    (x >>= f).result told = (.ok b, told') ↔
      ∃ a between, x.result told = (.ok a, between)
        ∧ (f a).result between = (.ok b, told') := by
  rw [result_bind]
  match x.result told with
  | (.error failure, between) => simp
  | (.ok a, between) => simp

theorem on_bind (x : Work (StateM σ) α) (f : α → Work (StateM σ) β) (told : List Event) (s : σ) :
    (x >>= f).on told s =
      match x.on told s with
      | ((.ok a, told), s) => (f a).on told s
      | ((.error failure, told), s) => ((.error failure, told), s) := by
  simp only [on, ExceptT.run_bind, StateT.run_bind]
  generalize StateT.run (StateT.run (ExceptT.run x) told) s = reached
  obtain ⟨⟨reached | reached, told⟩, s⟩ := reached <;> rfl

theorem outcome_eq (work : Work (StateM σ) α) (s : σ) :
    work.outcome s = (((work.on [] s).1.2, (work.on [] s).1.1), (work.on [] s).2) := rfl

theorem result_ask (question : Except FileError α) (refused : FileError → Failure)
    (told : List Event) :
    (ask (m := Id) question refused).result told = (question.mapError refused, told) := by
  cases question <;> rfl

theorem result_ask_eq_ok {question : Except FileError α} {refused : FileError → Failure}
    {told told' : List Event} {a : α} :
    (ask (m := Id) question refused).result told = (.ok a, told') ↔
      question = .ok a ∧ told' = told := by
  rw [result_ask]
  cases question <;> simp [Except.mapError, eq_comm]

theorem result_lift (outcome : Except Failure α) (told : List Event) :
    result (liftM outcome) told = (outcome, told) := by
  cases outcome <;> rfl

theorem on_ask (question : StateM σ (Except FileError α)) (refused : FileError → Failure)
    (told : List Event) (s : σ) :
    (ask question refused).on told s
      = (((question s).1.mapError refused, told), (question s).2) := by
  have looked : (look question).on told s = ((.ok (question s).1, told), (question s).2) := rfl
  unfold look at looked
  unfold ask
  rw [on_bind, looked]
  cases (question s).1 <;> rfl

-- ========================================================= mirroring

/-- Work that comes to the same in a state as other work does on its own, and
that leaves the state as it is. -/
def Mirrors (s : σ) (x : Work (StateM σ) α) (y : Work Id α) : Prop :=
  ∀ told, x.on told s = (y.result told, s)

namespace Mirrors

variable {s : σ}

theorem pure (a : α) : Mirrors s (Pure.pure a) (Pure.pure a) := fun _ => rfl

theorem throw (failure : Failure) :
    Mirrors s (MonadExcept.throw failure : Work (StateM σ) α) (MonadExcept.throw failure) :=
  fun _ => rfl

theorem tell (events : List Event) : Mirrors s (Work.tell events) (Work.tell events) :=
  fun _ => rfl

theorem bind {x : Work (StateM σ) α} {y : Work Id α} {f : α → Work (StateM σ) β}
    {g : α → Work Id β} (first : Mirrors s x y) (second : ∀ a, Mirrors s (f a) (g a)) :
    Mirrors s (x >>= f) (y >>= g) := by
  intro told
  rw [on_bind, result_bind, first told]
  obtain ⟨reached | reached, told⟩ := y.result told
  · rfl
  · exact second reached told

theorem look {question : StateM σ α} {answer : α} (answered : question s = (answer, s)) :
    Mirrors s (Work.look question) (Work.look (m := Id) answer) := by
  intro told
  change ((Except.ok (question s).1, told), (question s).2) = _
  rw [answered]
  rfl

theorem ask {question : StateM σ (Except FileError α)} {answer : Except FileError α}
    (answered : question s = (answer, s)) (refused : FileError → Failure) :
    Mirrors s (Work.ask question refused) (Work.ask (m := Id) answer refused) := by
  intro told
  rw [on_ask, result_ask, answered]

theorem ofOutcome (outcome : List Event × Except Failure α) :
    Mirrors s (Work.ofOutcome outcome) (Work.ofOutcome outcome) := by
  intro told
  obtain ⟨events, failure | a⟩ := outcome <;> rfl

theorem lift (outcome : Except Failure α) :
    Mirrors s (liftM outcome : Work (StateM σ) α) (liftM outcome) := by
  intro told
  cases outcome <;> rfl

end Mirrors

-- ========================================================= following

/-- Work that comes to whatever other work comes to, after some events. -/
def Follows (told : List Event) (x y : Work Id α) : Prop :=
  ∀ a told', x.result told = (.ok a, told') → y.result told = (.ok a, told')

namespace Follows

variable {told : List Event}

theorem refl (x : Work Id α) : Follows told x x := fun _ _ reached => reached

theorem bind {x y : Work Id α} {f g : α → Work Id β} (first : Follows told x y)
    (second : ∀ a told', x.result told = (.ok a, told') → Follows told' (f a) (g a)) :
    Follows told (x >>= f) (y >>= g) := by
  intro b told' reached
  obtain ⟨a, between, found, later⟩ := result_bind_eq_ok.1 reached
  exact result_bind_eq_ok.2
    ⟨a, between, first a between found, second a between found b told' later⟩

theorem ask {question question' : Except FileError α} {refused : FileError → Failure}
    (answered : ∀ a, question = .ok a → question' = .ok a) :
    Follows told (Work.ask (m := Id) question refused) (Work.ask (m := Id) question' refused) := by
  intro a told' reached
  obtain ⟨asked, rfl⟩ := result_ask_eq_ok.1 reached
  exact result_ask_eq_ok.2 ⟨answered a asked, rfl⟩

end Follows

end Work

-- ============================================ answering like a tree

namespace Files

/-- The answers about a tree that stays as it is. -/
def reader (files : Files) : Reader Id where
  currentDirectory := .ok (pathOf files.here)
  exists? path := files.exists? path
  readText path := files.readText path
  list path := files.list path

end Files

/-- A reader that answers in a state like a tree of files, and leaves the
state as it is. -/
structure Reader.Answers (reader : Reader (StateM σ)) (files : Files) (s : σ) : Prop where
  currentDirectory : reader.currentDirectory s = (files.reader.currentDirectory, s)
  exists? : ∀ path, reader.exists? path s = (files.reader.exists? path, s)
  readText : ∀ path, reader.readText path s = (files.reader.readText path, s)
  list : ∀ path, reader.list path s = (files.reader.list path, s)

/-- The files answer like themselves. -/
theorem Files.host_answers (files : Files) : Files.host.toReader.Answers files files :=
  ⟨rfl, fun _ => rfl, fun _ => rfl, fun _ => rfl⟩

open Work (Mirrors Follows)

section Mirrors

variable {reader : Reader (StateM σ)} {files : Files} {s : σ}

theorem Config.load_mirrors (answers : reader.Answers files s) (path : String) :
    Mirrors s (Config.load reader path) (Config.load files.reader path) := by
  refine .bind (.ask (answers.readText path) _) fun text => ?_
  cases Config.ofText? text with
  | none => exact .throw _
  | some config => exact .pure _

theorem Config.discover_mirrors (answers : reader.Answers files s) (dir : String) :
    Mirrors s (Config.discover reader dir) (Config.discover files.reader dir) := by
  refine .bind (.look (answers.exists? _)) fun found => ?_
  cases found with
  | true => exact Config.load_mirrors answers _
  | false => exact .bind (.tell _) fun _ => .pure _

theorem Generate.settings_mirrors (answers : reader.Answers files s) (request : Request) :
    Mirrors s (Generate.settings reader request) (Generate.settings files.reader request) := by
  unfold Generate.settings
  cases request.config with
  | some path => exact .bind (Config.load_mirrors answers path) fun _ => .pure _
  | none =>
    exact .bind (.ask answers.currentDirectory _) fun dir =>
      .bind (Config.discover_mirrors answers dir) fun _ => .pure _

theorem Template.readAll_mirrors (answers : reader.Answers files s) (dir : String)
    (entries : List DirectoryEntry) :
    Mirrors s (Template.readAll reader dir entries)
      (Template.readAll files.reader dir entries) := by
  induction entries with
  | nil => exact .pure _
  | cons entry rest ih =>
    simp only [Template.readAll]
    cases Template.Source.ofListed? entry with
    | none => exact ih
    | some source =>
      exact .bind (.ask (answers.readText _) _) fun contents => .bind ih fun _ => .pure _

theorem Template.load_mirrors (answers : reader.Answers files s) (dir : String) :
    Mirrors s (Template.load reader dir) (Template.load files.reader dir) :=
  .bind (.ask (answers.list dir) _) fun entries =>
    .bind (Template.readAll_mirrors answers dir entries) fun _ =>
      .bind (.lift _) fun _ => .bind (.tell _) fun _ => .pure _

theorem Generate.templates_mirrors (answers : reader.Answers files s) (config : Config) :
    Mirrors s (Generate.templates reader config) (Generate.templates files.reader config) := by
  unfold Generate.templates
  cases config.templatesDir with
  | some dir => exact Template.load_mirrors answers dir
  | none => exact .pure _

theorem Generate.change_mirrors (answers : reader.Answers files s) (dir : String)
    (file : String × String) :
    Mirrors s (Generate.change reader dir file) (Generate.change files.reader dir file) :=
  .bind (.look (answers.readText _)) fun _ => .pure _

/-- A host that answers like a tree gives the plan of the tree, and planning
leaves it as it is. -/
theorem Generate.plan_mirrors (answers : reader.Answers files s) (request : Request) :
    Mirrors s (Generate.plan reader request) (Generate.plan files.reader request) := by
  refine .bind (Generate.settings_mirrors answers request) fun config => ?_
  refine .bind (.lift _) fun (input, format) => ?_
  refine .bind (Generate.templates_mirrors answers config) fun templates => ?_
  refine .bind (.ask (answers.readText input) _) fun text => ?_
  refine .bind (.tell _) fun _ => ?_
  refine .bind (.ofOutcome _) fun types => ?_
  induction Generate.files config types templates with
  | nil => exact .pure _
  | cons file rest ih =>
    simp only [List.mapM_cons]
    exact .bind (Generate.change_mirrors answers _ file) fun _ => .bind ih fun _ => .pure _

end Mirrors

end OpenApiTypes
