/-
Sets of characters given as ascending ranges of code points, the form in
which the character properties of the Unicode standard are published. A
membership test walks the ranges and stops at the first one that starts
above the character, so that a low character, by far the most frequent, is
settled within the first few.
-/

namespace OpenApiTypes.Text

/-- Whether a code point lies in one of the ranges, both ends included.
The ranges ascend, so nothing after a range that starts above the code
point can hold it. -/
def inRanges (ranges : List (Nat × Nat)) (code : Nat) : Bool :=
  match ranges with
  | [] => false
  | (first, last) :: rest =>
      if code < first then false
      else if code ≤ last then true
      else inRanges rest code

/-- A code point of the first range is a member. -/
theorem inRanges_head {first last code : Nat} (rest : List (Nat × Nat))
    (lower : first ≤ code) (upper : code ≤ last) :
    inRanges ((first, last) :: rest) code = true := by
  simp [inRanges, Nat.not_lt.mpr lower, upper]

/-- A member lies in one of the listed ranges. -/
theorem exists_of_inRanges {ranges : List (Nat × Nat)} {code : Nat}
    (h : inRanges ranges code = true) :
    ∃ range ∈ ranges, range.1 ≤ code ∧ code ≤ range.2 := by
  induction ranges with
  | nil => simp [inRanges] at h
  | cons range rest ih =>
    obtain ⟨first, last⟩ := range
    by_cases below : code < first
    · simp [inRanges, below] at h
    · by_cases inside : code ≤ last
      · exact ⟨(first, last), by simp, Nat.not_lt.mp below, inside⟩
      · simp only [inRanges, below, inside, if_false] at h
        obtain ⟨range, mem, bounds⟩ := ih h
        exact ⟨range, List.mem_cons_of_mem _ mem, bounds⟩

end OpenApiTypes.Text
