/-
What an edit script says about its two lists. The script that is searched
for makes the old list into the new one, wherever the search cuts the two
(`script_turns`): a bad cut costs lines, never a wrong one. Compaction moves
edits around and changes neither list (`compact_agrees`). It consists of four
moves of neighbouring runs, and each of them is checked once, for two runs
with nothing around them; that they may be made anywhere in a script is
because both lists are read run by run.
-/
import OpenApiTypes.Diff.Compaction
import OpenApiTypes.Diff.Search

namespace OpenApiTypes.Diff

variable {α : Type}

-- ========================================================== two lists

/-- A script that makes one list into another one. -/
structure Script.Turns (script : Script α) (old new : List α) : Prop where
  old : script.old = old
  new : script.new = new

namespace Script.Turns

variable {first second : Script α} {old old' new new' : List α}

theorem append (h : Turns first old new) (h' : Turns second old' new') :
    Turns (first ++ second) (old ++ old') (new ++ new') :=
  ⟨by rw [old_append, h.old, h'.old], by rw [new_append, h.new, h'.new]⟩

theorem kept (lines : List α) : Turns (ofRun .keep lines) lines lines := by
  cases lines with
  | nil => exact ⟨rfl, rfl⟩
  | cons line rest => constructor <;> simp [ofRun, Script.old, Script.new]

theorem dropped (lines : List α) : Turns (ofRun .drop lines) lines [] := by
  cases lines with
  | nil => exact ⟨rfl, rfl⟩
  | cons line rest => constructor <;> simp [ofRun, Script.old, Script.new]

theorem added (lines : List α) : Turns (ofRun .add lines) [] lines := by
  cases lines with
  | nil => exact ⟨rfl, rfl⟩
  | cons line rest => constructor <;> simp [ofRun, Script.old, Script.new]

/-- Everything old goes and everything new comes. -/
theorem replaced (old new : List α) : Turns (ofRun .drop old ++ ofRun .add new) old new := by
  simpa using (dropped old).append (added new)

end Script.Turns

-- ========================================================= the search

section Search

variable [DecidableEq α]

theorem commonStart_prefix (as bs : List α) :
    commonStart as bs <+: as ∧ commonStart as bs <+: bs := by
  fun_induction commonStart as bs with
  | case1 a as bs ih =>
    exact ⟨List.cons_prefix_cons.2 ⟨rfl, ih.1⟩, List.cons_prefix_cons.2 ⟨rfl, ih.2⟩⟩
  | case2 a as b bs differ => exact ⟨List.nil_prefix, List.nil_prefix⟩
  | case3 as bs none => exact ⟨List.nil_prefix, List.nil_prefix⟩

theorem commonEnd_suffix (as bs : List α) :
    commonEnd as bs <:+ as ∧ commonEnd as bs <:+ bs := by
  obtain ⟨first, second⟩ := commonStart_prefix as.reverse bs.reverse
  constructor
  · simpa [commonEnd] using List.reverse_suffix.2 first
  · simpa [commonEnd] using List.reverse_suffix.2 second

/-- The search gives a script for its two lists, wherever it cuts them. -/
theorem search_turns (old new : List α) (bound : Nat) : (search old new bound).Turns old new := by
  induction bound generalizing old new with
  | zero => exact .replaced old new
  | succ bound ih =>
    unfold search
    extract_lets start old₁ new₁ ending old₂ new₂ changed
    obtain ⟨starts, starts'⟩ := commonStart_prefix old new
    obtain ⟨ends, ends'⟩ := commonEnd_suffix old₁ new₁
    have whole : start ++ old₂ ++ ending = old := by
      rw [List.append_assoc, List.suffix_iff_eq_append.1 ends, List.prefix_iff_eq_append.1 starts]
    have whole' : start ++ new₂ ++ ending = new := by
      rw [List.append_assoc, List.suffix_iff_eq_append.1 ends', List.prefix_iff_eq_append.1 starts']
    have middle : changed.Turns old₂ new₂ := by
      unfold changed
      split
      · exact .replaced old₂ new₂
      · split
        · rename_i x y _
          have parts := (ih (old₂.take x) (new₂.take y)).append (ih (old₂.drop x) (new₂.drop y))
          rwa [List.take_append_drop, List.take_append_drop] at parts
        · exact .replaced old₂ new₂
    have turned := ((Script.Turns.kept start).append middle).append (.kept ending)
    rwa [whole, whole'] at turned

/-- The script for two lists makes the first into the second. -/
theorem script_turns (old new : List α) : (script old new).Turns old new :=
  search_turns old new _

end Search

-- ====================================================== moving edits

namespace Script

/-- Scripts that start from one list and end with one list. -/
structure Agree (first second : Script α) : Prop where
  old : first.old = second.old
  new : first.new = second.new

namespace Agree

variable {first second third : Script α}

theorem refl (script : Script α) : Agree script script := ⟨rfl, rfl⟩

theorem trans (h : Agree first second) (h' : Agree second third) : Agree first third :=
  ⟨h.old.trans h'.old, h.new.trans h'.new⟩

theorem append {first' second' : Script α} (h : Agree first second) (h' : Agree first' second') :
    Agree (first ++ first') (second ++ second') :=
  ⟨by rw [old_append, old_append, h.old, h'.old], by rw [new_append, new_append, h.new, h'.new]⟩

/-- What is around two scripts that agree makes no difference. -/
theorem around (h : Agree first second) (before after : Script α) :
    Agree (before ++ first ++ after) (before ++ second ++ after) :=
  ⟨by simp only [old_append, h.old], by simp only [new_append, h.new]⟩

/-- Lines that go and lines that come may trade places. -/
theorem swap {edit other : Run α} (moves : edit.action ≠ .keep) (moves' : other.action ≠ .keep)
    (apart : other.action ≠ edit.action) : Agree [edit, other] [other, edit] := by
  obtain ⟨action, lines⟩ := edit
  obtain ⟨action', lines'⟩ := other
  cases action with
  | keep => exact absurd rfl moves
  | drop =>
    cases action' with
    | keep => exact absurd rfl moves'
    | drop => exact absurd rfl apart
    | add => constructor <;> simp [Script.old, Script.new]
  | add =>
    cases action' with
    | keep => exact absurd rfl moves'
    | drop => constructor <;> simp [Script.old, Script.new]
    | add => exact absurd rfl apart

/-- Neighbours of one kind are one run. -/
theorem join (action : Action) (lines lines' : List α) :
    Agree [⟨action, lines ++ lines'⟩] [⟨action, lines⟩, ⟨action, lines'⟩] := by
  cases action <;> constructor <;> simp [Script.old, Script.new]

/-- Added lines that end like the kept ones before them may come earlier. -/
theorem slideUp (left ending lines : List α) :
    Agree [⟨.keep, left⟩, ⟨.add, ending ++ lines⟩, ⟨.keep, ending⟩]
      [⟨.keep, left ++ ending⟩, ⟨.add, lines ++ ending⟩] := by
  constructor <;> simp [Script.old, Script.new]

/-- Added lines that start like the kept ones after them may come later. -/
theorem slideDown (start lines left : List α) :
    Agree [⟨.keep, start⟩, ⟨.add, lines ++ start⟩, ⟨.keep, left⟩]
      [⟨.add, start ++ lines⟩, ⟨.keep, start ++ left⟩] := by
  constructor <;> simp [Script.old, Script.new]

theorem keepBefore (lines : List α) (after : List (Run α)) :
    Agree (Diff.keepBefore lines after) (⟨.keep, lines⟩ :: after) := by
  unfold Diff.keepBefore
  split
  · exact (join .keep lines _).around [] _
  · exact .refl _

theorem keepAfter (lines : List α) (before : List (Run α)) :
    Agree (Diff.keepAfter lines before).reverse (before.reverse ++ [⟨.keep, lines⟩]) := by
  unfold Diff.keepAfter
  split
  · rename_i more rest
    simpa using (join .keep more lines).around rest.reverse []
  · rw [List.reverse_cons]
    exact .refl _

theorem keepUnlessEmpty (lines : List α) (after : List (Run α)) :
    Agree (Diff.keepUnlessEmpty lines after) (⟨.keep, lines⟩ :: after) := by
  cases lines with
  | nil => exact ⟨rfl, rfl⟩
  | cons line rest => exact .refl _

theorem reverse_keepUnlessEmpty (lines : List α) (before : List (Run α)) :
    Agree (Diff.keepUnlessEmpty lines before).reverse (before.reverse ++ [⟨.keep, lines⟩]) := by
  cases lines with
  | nil => constructor <;> simp [Diff.keepUnlessEmpty, Script.old, Script.new]
  | cons line rest =>
    rw [Diff.keepUnlessEmpty, List.isEmpty_cons, if_neg Bool.false_ne_true, List.reverse_cons]
    exact .refl _

end Agree

end Script

open Script (Agree)

/-- The script with an edit in focus. -/
def Focus.script (focus : Focus α) : Script α := focus.before.reverse ++ focus.edit :: focus.after

/-- An edit that has been moved, in a script that does what it did. -/
structure Moved (before after : Focus α) : Prop where
  action : after.edit.action = before.edit.action
  agree : Agree after.script before.script

namespace Moved

variable {first second third : Focus α}

theorem refl (focus : Focus α) : Moved focus focus := ⟨rfl, .refl _⟩

theorem trans (h : Moved first second) (h' : Moved second third) : Moved first third :=
  ⟨h'.action.trans h.action, h'.agree.trans h.agree⟩

variable {before after : List (Run α)} {edit other : Run α}

theorem passUp (moves : edit.action ≠ .keep) (moves' : other.action ≠ .keep)
    (apart : other.action ≠ edit.action) :
    Moved ⟨other :: before, edit, after⟩ ⟨before, edit, other :: after⟩ where
  action := rfl
  agree := by
    simpa [Focus.script] using (Agree.swap moves moves' apart).around before.reverse after

theorem passDown (moves : edit.action ≠ .keep) (moves' : other.action ≠ .keep)
    (apart : other.action ≠ edit.action) :
    Moved ⟨before, edit, other :: after⟩ ⟨other :: before, edit, after⟩ where
  action := rfl
  agree := by
    simpa [Focus.script] using
      (Agree.swap moves' moves (Ne.symm apart)).around before.reverse after

theorem joinUp (alike : other.action = edit.action) :
    Moved ⟨other :: before, edit, after⟩
      ⟨before, ⟨edit.action, other.lines ++ edit.lines⟩, after⟩ where
  action := rfl
  agree := by
    obtain ⟨action, lines⟩ := other
    obtain rfl : action = edit.action := alike
    simpa [Focus.script] using
      (Agree.join edit.action lines edit.lines).around before.reverse after

theorem joinDown (alike : other.action = edit.action) :
    Moved ⟨before, edit, other :: after⟩
      ⟨before, ⟨edit.action, edit.lines ++ other.lines⟩, after⟩ where
  action := rfl
  agree := by
    obtain ⟨action, lines⟩ := other
    obtain rfl : action = edit.action := alike
    simpa [Focus.script] using
      (Agree.join edit.action edit.lines lines).around before.reverse after

theorem passNothingUp : Moved ⟨⟨.keep, []⟩ :: before, edit, after⟩ ⟨before, edit, after⟩ where
  action := rfl
  agree := by constructor <;> simp [Focus.script, Script.old, Script.new]

theorem passNothingDown : Moved ⟨before, edit, ⟨.keep, []⟩ :: after⟩ ⟨before, edit, after⟩ where
  action := rfl
  agree := by constructor <;> simp [Focus.script, Script.old, Script.new]

theorem slideUp (before after : List (Run α)) (left ending lines : List α) :
    Moved ⟨⟨.keep, left ++ ending⟩ :: before, ⟨.add, lines ++ ending⟩, after⟩
      ⟨keepUnlessEmpty left before, ⟨.add, ending ++ lines⟩, keepBefore ending after⟩ where
  action := rfl
  agree := by
    have apart := (Agree.reverse_keepUnlessEmpty left before).append
      ((Agree.refl [⟨.add, ending ++ lines⟩]).append (.keepBefore ending after))
    have slid := (Agree.slideUp left ending lines).around before.reverse after
    simp only [List.append_assoc, List.cons_append, List.nil_append] at apart slid
    simpa [Focus.script] using apart.trans slid

theorem slideDown (before after : List (Run α)) (start lines left : List α) :
    Moved ⟨before, ⟨.add, start ++ lines⟩, ⟨.keep, start ++ left⟩ :: after⟩
      ⟨keepAfter start before, ⟨.add, lines ++ start⟩, keepUnlessEmpty left after⟩ where
  action := rfl
  agree := by
    have apart := (Agree.keepAfter start before).append
      ((Agree.refl [⟨.add, lines ++ start⟩]).append (.keepUnlessEmpty left after))
    have slid := (Agree.slideDown start lines left).around before.reverse after
    simp only [List.append_assoc, List.cons_append, List.nil_append] at apart slid
    simpa [Focus.script] using apart.trans slid

end Moved

-- ======================================================== compaction

section Compaction

variable [DecidableEq α] {kept : List α} {edit : Run α}

/-- Only added lines pass kept ones, and only such as they end with. -/
theorem passedUp_cases (some : (passedUp kept edit).isEmpty = false) :
    edit.action = .add ∧ passedUp kept edit <:+ kept ∧ passedUp kept edit <:+ edit.lines := by
  unfold passedUp at some ⊢
  split at some
  · rename_i comes
    rw [if_pos comes]
    exact ⟨comes, commonEnd_suffix kept edit.lines⟩
  · cases some

/-- Only added lines pass kept ones, and only such as they start with. -/
theorem passedDown_cases (some : (passedDown kept edit).isEmpty = false) :
    edit.action = .add ∧ passedDown kept edit <+: kept ∧ passedDown kept edit <+: edit.lines := by
  unfold passedDown at some ⊢
  split at some
  · rename_i comes
    rw [if_pos comes]
    exact ⟨comes, commonStart_prefix kept edit.lines⟩
  · cases some

theorem moved_moveUp (focus : Focus α) (moves : focus.edit.action ≠ .keep) (bound : Nat) :
    Moved focus (moveUp focus bound) := by
  fun_induction moveUp focus bound with
  | case1 => exact .refl _
  | case2 => exact .refl _
  | case3 bound edit after kept before ending none empty ih =>
    obtain rfl : kept = [] := List.isEmpty_iff.1 empty
    exact Moved.passNothingUp.trans (ih moves)
  | case4 => exact .refl _
  | case5 bound edit after kept before ending some left lines ih =>
    obtain ⟨comes, ends, ends'⟩ := passedUp_cases (Bool.eq_false_iff.2 some)
    obtain ⟨action, added⟩ := edit
    obtain rfl : action = .add := comes
    have slid := Moved.slideUp before after left ending
      (added.take (added.length - ending.length))
    rw [List.suffix_iff_eq_append.1 ends, List.suffix_iff_eq_append.1 ends'] at slid
    exact slid.trans (ih moves)
  | case6 bound edit after other before _ alike ih =>
    exact (Moved.joinUp alike).trans (ih moves)
  | case7 bound edit after other before differs apart ih =>
    have moves' : other.action ≠ .keep := fun same => differs other.lines (by rw [← same])
    exact (Moved.passUp moves moves' apart).trans (ih moves)

theorem moved_moveDown (focus : Focus α) (moves : focus.edit.action ≠ .keep) (bound : Nat) :
    Moved focus (moveDown focus bound) := by
  fun_induction moveDown focus bound with
  | case1 => exact .refl _
  | case2 => exact .refl _
  | case3 bound before edit kept after start none empty ih =>
    obtain rfl : kept = [] := List.isEmpty_iff.1 empty
    exact Moved.passNothingDown.trans (ih moves)
  | case4 => exact .refl _
  | case5 bound before edit kept after start some left lines ih =>
    obtain ⟨comes, starts, starts'⟩ := passedDown_cases (Bool.eq_false_iff.2 some)
    obtain ⟨action, added⟩ := edit
    obtain rfl : action = .add := comes
    have slid := Moved.slideDown before after start
      (added.drop start.length) left
    rw [List.prefix_iff_eq_append.1 starts, List.prefix_iff_eq_append.1 starts'] at slid
    exact slid.trans (ih moves)
  | case6 bound before edit other after _ alike ih =>
    exact (Moved.joinDown alike).trans (ih moves)
  | case7 bound before edit other after differs apart ih =>
    have moves' : other.action ≠ .keep := fun same => differs other.lines (by rw [← same])
    exact (Moved.passDown moves moves' apart).trans (ih moves)

/-- Moving all edits of a kind changes neither list. -/
theorem moveAll_agrees {action : Action} (moves : action ≠ .keep) (room bound : Nat)
    (before after : List (Run α)) :
    Agree (moveAll action room before after bound) (before.reverse ++ after) := by
  fun_induction moveAll action room before after bound with
  | case1 => exact .refl _
  | case2 => simpa using Agree.refl _
  | case3 before bound run after ofKind before' edit' after' reached ih =>
    have up := moved_moveUp ⟨before, run, after⟩ (by rwa [ofKind]) room
    have down := moved_moveDown _ (by rwa [up.action, ofKind]) room
    have moved := up.trans down
    rw [reached] at moved
    have agree : Agree (before'.reverse ++ edit' :: after') (before.reverse ++ run :: after) :=
      moved.agree
    rw [List.reverse_cons, List.append_assoc, List.singleton_append] at ih
    exact ih.trans agree
  | case4 before bound run after other ih =>
    rwa [List.reverse_cons, List.append_assoc, List.singleton_append] at ih

/-- Compaction changes neither list. -/
theorem compact_agrees (script : Script α) : Agree (compact script) script :=
  (moveAll_agrees (by decide) _ _ _ _).trans (moveAll_agrees (by decide) _ _ _ _)

end Compaction

end OpenApiTypes.Diff
