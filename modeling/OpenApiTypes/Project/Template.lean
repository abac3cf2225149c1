/-
Templates: hand-written files that are copied unchanged into the output
directory, beside the types. They are the files of one directory that have
the extension `ts` or `tsf`, and all of them are written with `ts`; where
that gives two of them one name, they clash. A file whose stem or extension
is no text is passed over.
-/
import OpenApiTypes.Project.Path
import OpenApiTypes.Project.Work
import OpenApiTypes.Text.Order

namespace OpenApiTypes

/-- A template under the name that it is written with. -/
structure Template where
  file : String
  contents : String
  deriving DecidableEq, Repr

namespace Template

/-- The text that stands before the types. -/
def banner : String :=
  "/**\n * AUTO-GENERATED by swagger-ts. Do not edit this file directly;\n"
    ++ " * change the OpenAPI document and regenerate instead.\n */\n\n"

/-- The name of a template in its directory: a stem with one of the two
extensions. -/
@[ext]
structure Source where
  stem : String
  extension : String
  named : stem ≠ ""
  known : extension = "ts" ∨ extension = "tsf"

namespace Source

/-- The name as it is listed. -/
def name (source : Source) : String := source.stem ++ "." ++ source.extension

/-- The name that the template is written with. -/
def file (source : Source) : String := source.stem ++ ".ts"

/-- What stands before the last dot of a name is not empty. -/
theorem named_of_cut {name front after : List UInt8} {stem : String}
    (cut : Path.cutAtLast '.'.toUInt8 name = (front, some after))
    (read : Text.ofUtf8? front = some stem) : stem ≠ "" := by
  rintro rfl
  exact (Path.cutAtLast_eq_some.1 cut).1 (Text.ofUtf8?_eq_some.1 read)

/-- The source that an entry of a directory is, if it is one. -/
def ofListed? (entry : DirectoryEntry) : Option Source :=
  if entry.isFile then
    match cut : Path.cutAtLast '.'.toUInt8 entry.name with
    | (_, none) => none
    | (front, some after) =>
        match read : Text.ofUtf8? front, Text.ofUtf8? after with
        | some stem, some ext =>
            if known : ext = "ts" ∨ ext = "tsf" then
              some ⟨stem, ext, named_of_cut cut read, known⟩
            else none
        | _, _ => none
  else none

/-- What a directory lists for the source. -/
def entry (source : Source) : DirectoryEntry := ⟨Text.utf8 source.name, true⟩

/-- The bytes of the name are those of the stem, a dot and those of the
extension. -/
theorem utf8_name (source : Source) :
    Text.utf8 source.name
      = Text.utf8 source.stem ++ '.'.toUInt8 :: Text.utf8 source.extension := by
  simp only [name, Text.utf8_append, List.append_assoc]
  rfl

/-- The name of a source is cut between its stem and its extension. -/
theorem cut_name (source : Source) :
    Path.cutAtLast '.'.toUInt8 (Text.utf8 source.name)
      = (Text.utf8 source.stem, some (Text.utf8 source.extension)) := by
  refine Path.cutAtLast_eq_some.2 ⟨fun empty => source.named (Text.utf8_injective empty), ?_,
    source.utf8_name⟩
  rcases source.known with same | same <;> rw [same] <;> decide

/-- What an entry is recognised as is listed by that entry. -/
theorem eq_entry_of_ofListed? {entry : DirectoryEntry} {source : Source}
    (found : ofListed? entry = some source) : entry = source.entry := by
  unfold ofListed? at found
  split at found
  · rename_i regular
    split at found
    · cases found
    · rename_i front after cut
      split at found
      · rename_i stem ext readStem readExt
        split at found
        · cases found
          obtain rfl := Text.ofUtf8?_eq_some.1 readStem
          obtain rfl := Text.ofUtf8?_eq_some.1 readExt
          obtain ⟨-, -, whole⟩ := Path.cutAtLast_eq_some.1 cut
          rw [Source.entry, utf8_name, ← whole, ← regular]
        · cases found
      · cases found
  · cases found

/-- A source is recognised where it is listed. -/
theorem ofListed?_entry (source : Source) : ofListed? source.entry = some source := by
  simp only [ofListed?, Source.entry, if_true]
  split
  · rename_i uncut
    rw [cut_name] at uncut
    cases uncut
  · rename_i front after cut
    rw [cut_name] at cut
    cases cut
    split
    · rename_i readStem readExt
      rw [Text.ofUtf8?_utf8] at readStem readExt
      cases readStem
      cases readExt
      rw [dif_pos source.known]
    · rename_i unread
      exact absurd (Text.ofUtf8?_utf8 _) (unread _ _ (Text.ofUtf8?_utf8 _))

theorem ofListed?_eq_some {entry : DirectoryEntry} {source : Source} :
    ofListed? entry = some source ↔ entry = source.entry := by
  constructor
  · exact eq_entry_of_ofListed?
  · rintro rfl
    exact source.ofListed?_entry

end Source

/-- The first name that two neighbours share. -/
def firstClash? : List Template → Option String
  | a :: b :: rest => if a.file = b.file then some a.file else firstClash? (b :: rest)
  | _ => none

/-- The templates in ascending order of their names, unless two of them
clash. -/
def arrange (dir : String) (templates : List Template) : Except Failure (List Template) :=
  let sorted := Text.sortByName Template.file templates
  match firstClash? sorted with
  | some file => .error (.templateClash file dir)
  | none => .ok sorted

variable {m : Type → Type} [Monad m]

/-- Reads the templates among the entries of a directory, in the order of
the entries. -/
def readAll (reader : Reader m) (dir : String) : List DirectoryEntry → Work m (List Template)
  | [] => pure []
  | entry :: rest =>
      match Source.ofListed? entry with
      | none => readAll reader dir rest
      | some source => do
          let path := Path.join dir source.name
          let contents ← Work.ask (reader.readText path) (.unreadableTemplate path)
          return ⟨source.file, contents⟩ :: (← readAll reader dir rest)

/-- The templates of a directory. -/
def load (reader : Reader m) (dir : String) : Work m (List Template) := do
  let entries ← Work.ask (reader.list dir) (.noTemplates dir)
  let templates ← arrange dir (← readAll reader dir entries)
  Work.tell [.loadedTemplates dir templates.length]
  pure templates

end Template

end OpenApiTypes
