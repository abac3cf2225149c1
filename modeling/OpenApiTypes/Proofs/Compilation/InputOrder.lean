/-
The order in which definitions are handed over shows only where two of them
have one name. Compiling puts them into the order of their names first, and
everything after that, the names taken so far, the first failure and every
warning, is seen from this order alone. So a list may be rearranged as long
as definitions of one name stay in turn; two different names that become one
type name may change places like any others.
-/
import OpenApiTypes.Compilation
import OpenApiTypes.Proofs.Order.Stability

namespace OpenApiTypes

namespace Definition

/-- The second list holds the definitions of the first in another order, in
which those of one name still follow each other as they did. -/
structure Rearranged (definitions others : List Definition) : Prop where
  moved : definitions.Perm others
  inTurn : ∀ key, Text.namesakes name key definitions = Text.namesakes name key others

/-- Lists are compiled in one order exactly when one of them is the other
rearranged. -/
theorem order_eq_iff {definitions others : List Definition} :
    order definitions = order others ↔ Rearranged definitions others := by
  unfold order
  constructor
  · intro same
    refine ⟨?_, Text.sortByName_eq_iff.1 same⟩
    have sorted := (Text.sortByName_perm name definitions).symm
    rw [same] at sorted
    exact sorted.trans (Text.sortByName_perm name others)
  · intro rearranged
    exact Text.sortByName_eq_iff.2 rearranged.inTurn

end Definition

namespace Compilation

/-- Definitions that are rearranged, those of one name still in turn, compile
to the same text or fail by the same definition with the same cause, and all
events, warnings among them, are the same in the same order. So it is also
where a failure leaves an empty text. -/
theorem tryCompile_rearranged (options : Options) {definitions others : List Definition}
    (rearranged : Definition.Rearranged definitions others) :
    tryCompile options definitions = tryCompile options others
      ∧ compile options definitions = compile options others := by
  have compiled : tryCompile options definitions = tryCompile options others := by
    unfold tryCompile
    rw [Definition.order_eq_iff.2 rearranged]
  refine ⟨compiled, ?_⟩
  unfold compile
  rw [compiled, rearranged.moved.length_eq]

-- ---- two raw names that become one type name, and one of them twice

/-- Two definitions of one name. -/
def spacedFirst : Definition := { name := "a b", schema := {}, description := some "first" }

def spacedSecond : Definition := { name := "a b", schema := {}, description := some "second" }

/-- A definition whose type name is that of the other two. -/
def unspaced : Definition := { name := "aB", schema := {} }

theorem tryCompile_spaced :
    Definition.Rearranged [unspaced, spacedFirst, spacedSecond]
        [spacedFirst, unspaced, spacedSecond]
      ∧ tryCompile {} [unspaced, spacedFirst, spacedSecond]
        = tryCompile {} [spacedFirst, unspaced, spacedSecond] := by
  have rearranged : Definition.Rearranged [unspaced, spacedFirst, spacedSecond]
      [spacedFirst, unspaced, spacedSecond] := by
    refine ⟨.swap _ _ _, fun key => ?_⟩
    by_cases same : "aB" = key
    · subst same
      simp [Text.namesakes, unspaced, spacedFirst, spacedSecond]
    · simp [Text.namesakes, unspaced, List.filter_cons, same]
  exact ⟨rearranged, (tryCompile_rearranged {} rearranged).1⟩

end Compilation

end OpenApiTypes
