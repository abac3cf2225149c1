/-
The order of names: byte by byte over their UTF-8 encoding, which knows no
locale and tells upper from lower case. Whatever a map lists is put into
this order before it can show in an output.
-/
import OpenApiTypes.Text.Utf8

namespace OpenApiTypes.Text

/-- The comparison of two names byte by byte. -/
def compareNames (a b : String) : Ordering := (utf8 a).compareLex compare (utf8 b)

/-- Whether the first name may stand before the second. -/
def nameLE (a b : String) : Bool := (compareNames a b).isLE

/-- The items in ascending order of their names; items of one name keep
their order. -/
def sortByName {α : Type} (name : α → String) (items : List α) : List α :=
  items.mergeSort fun a b => nameLE (name a) (name b)

/-- The entries of a map in ascending order of their keys. -/
def sortEntries {α : Type} (entries : List (String × α)) : List (String × α) :=
  sortByName Prod.fst entries

/-- Sorting moves items and neither drops nor adds any. -/
theorem sortByName_perm {α : Type} (name : α → String) (items : List α) :
    (sortByName name items).Perm items :=
  List.mergeSort_perm _ _

end OpenApiTypes.Text
