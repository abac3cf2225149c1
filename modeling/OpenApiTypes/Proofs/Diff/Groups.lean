/-
What the groups of a comparison say about its two lists (`groups_fit`). A
group holds a run of lines of either list, the groups follow one another in
both, and whatever lies before, between and after them is the same in both
lists. So each list is the other one with the runs exchanged, and if the two
differ, some group has a line that goes or comes.

Nothing here depends on how the script was found: trimming and cutting only
leave out kept lines, and a line that is kept stands in both lists.
-/
import OpenApiTypes.Diff.Group
import OpenApiTypes.Proofs.Diff.Scripts

namespace OpenApiTypes.Diff

variable {α : Type}

-- ============================================================= lines

/-- A line with what happens to it. -/
abbrev Line (α : Type) := Action × α

/-- The lines that stand in the old list. -/
def oldLines (lines : List (Line α)) : List α := (lines.filter (·.1 ≠ .add)).map Prod.snd

/-- The lines that stand in the new list. -/
def newLines (lines : List (Line α)) : List α := (lines.filter (·.1 ≠ .drop)).map Prod.snd

/-- How groups of lines lie in two lists: one after the other in both, with
the same lines before, between and after them. -/
inductive Fits : List (List (Line α)) → List α → List α → Prop
  | rest (same : List α) : Fits [] same same
  | group (same : List α) (lines : List (Line α)) {groups : List (List (Line α))}
      {old new : List α} (later : Fits groups old new) :
      Fits (lines :: groups) (same ++ oldLines lines ++ old) (same ++ newLines lines ++ new)

@[simp] theorem oldLines_append (first second : List (Line α)) :
    oldLines (first ++ second) = oldLines first ++ oldLines second := by
  simp [oldLines]

@[simp] theorem newLines_append (first second : List (Line α)) :
    newLines (first ++ second) = newLines first ++ newLines second := by
  simp [newLines]

/-- Lines that all have one fate. -/
def marked (action : Action) (lines : List α) : List (Line α) := lines.map (action, ·)

@[simp] theorem oldLines_marked (action : Action) (lines : List α) :
    oldLines (marked action lines) = if action = .add then [] else lines := by
  cases action <;> simp [oldLines, marked, List.filter_map, Function.comp_def]

@[simp] theorem newLines_marked (action : Action) (lines : List α) :
    newLines (marked action lines) = if action = .drop then [] else lines := by
  cases action <;> simp [newLines, marked, List.filter_map, Function.comp_def]

namespace Fits

variable {groups : List (List (Line α))} {old new : List α}

/-- More lines that both lists start with. -/
theorem prepend (fits : Fits groups old new) (same : List α) :
    Fits groups (same ++ old) (same ++ new) := by
  cases fits with
  | rest => exact .rest _
  | group same' lines later =>
    simpa only [List.append_assoc] using Fits.group (same ++ same') lines later

/-- More lines that both lists end with. -/
theorem append (fits : Fits groups old new) (same : List α) :
    Fits groups (old ++ same) (new ++ same) := by
  induction fits with
  | rest same' => exact .rest (same' ++ same)
  | group same' lines _ ih => simpa only [List.append_assoc] using Fits.group same' lines ih

/-- Where every line of the groups is kept the two lists are one. -/
theorem eq_of_kept (fits : Fits groups old new)
    (kept : ∀ group ∈ groups, ∀ line ∈ group, line.1 = .keep) : old = new := by
  induction fits with
  | rest same => rfl
  | group same lines _ ih =>
    have here := kept lines List.mem_cons_self
    have level : oldLines lines = newLines lines := by
      unfold oldLines newLines
      congr 1
      refine List.filter_congr fun line mem => ?_
      simp [here line mem]
    rw [level, ih fun group mem => kept group (List.mem_cons_of_mem _ mem)]

/-- Lists that differ show a change. -/
theorem exists_change (fits : Fits groups old new) (differ : old ≠ new) :
    ∃ group ∈ groups, ∃ line ∈ group, line.1 ≠ .keep := by
  refine Classical.byContradiction fun none => differ (fits.eq_of_kept ?_)
  intro group mem line inside
  exact Classical.byContradiction fun moved => none ⟨group, mem, line, inside, moved⟩

/-- Every line of the groups stands in one of the lists. -/
theorem mem_or_mem (fits : Fits groups old new) {group : List (Line α)} (mem : group ∈ groups)
    {line : Line α} (inside : line ∈ group) : line.2 ∈ old ∨ line.2 ∈ new := by
  induction fits with
  | rest same => cases mem
  | group same lines _ ih =>
    rcases List.mem_cons.1 mem with rfl | mem
    · by_cases comes : line.1 = .add
      · have here : line.2 ∈ newLines group :=
          List.mem_map.2 ⟨line, List.mem_filter.2 ⟨inside, by simp [comes]⟩, rfl⟩
        exact .inr (by simp [here])
      · have here : line.2 ∈ oldLines group :=
          List.mem_map.2 ⟨line, List.mem_filter.2 ⟨inside, by simpa using comes⟩, rfl⟩
        exact .inl (by simp [here])
    · rcases ih mem with old | new
      · exact .inl (List.mem_append_right _ old)
      · exact .inr (List.mem_append_right _ new)

end Fits

-- ========================================================== segments

namespace Segment

/-- The lines of a segment. What goes stands before what comes. -/
def lines : Segment α → List (Line α)
  | same kept => marked .keep kept
  | change dropped added => marked .drop dropped ++ marked .add added

theorem old_cons (run : Run α) (segments : List (Segment α)) :
    oldLines ((cons run segments).flatMap lines)
      = (if run.action = .add then [] else run.lines) ++ oldLines (segments.flatMap lines) := by
  unfold cons
  split <;> simp_all [lines]

theorem new_cons (run : Run α) (segments : List (Segment α)) :
    newLines ((cons run segments).flatMap lines)
      = (if run.action = .drop then [] else run.lines) ++ newLines (segments.flatMap lines) := by
  unfold cons
  split <;> simp_all [lines]

theorem old_ofScript (script : Script α) :
    oldLines ((ofScript script).flatMap lines) = script.old := by
  induction script with
  | nil => rfl
  | cons run rest ih =>
    rw [ofScript, List.foldr_cons, old_cons]
    exact congrArg _ ih

theorem new_ofScript (script : Script α) :
    newLines ((ofScript script).flatMap lines) = script.new := by
  induction script with
  | nil => rfl
  | cons run rest ih =>
    rw [ofScript, List.foldr_cons, new_cons]
    exact congrArg _ ih

end Segment

-- ============================================================ groups

section Groups

variable {context : Nat} {segments : List (Segment α)}

/-- Trimming leaves out kept lines at the start. -/
theorem exists_trimFirst (context : Nat) (segments : List (Segment α)) :
    ∃ same, oldLines (segments.flatMap Segment.lines)
          = same ++ oldLines ((trimFirst context segments).flatMap Segment.lines)
        ∧ newLines (segments.flatMap Segment.lines)
          = same ++ newLines ((trimFirst context segments).flatMap Segment.lines) := by
  unfold trimFirst
  split
  · rename_i lines rest
    refine ⟨lines.take (lines.length - context), ?_⟩
    simp [Segment.lines, ← List.append_assoc]
  · exact ⟨[], rfl, rfl⟩

/-- Trimming leaves out kept lines at the end. -/
theorem exists_trimLast (context : Nat) (segments : List (Segment α)) :
    ∃ same, oldLines (segments.flatMap Segment.lines)
          = oldLines ((trimLast context segments).flatMap Segment.lines) ++ same
        ∧ newLines (segments.flatMap Segment.lines)
          = newLines ((trimLast context segments).flatMap Segment.lines) ++ same := by
  fun_induction trimLast context segments with
  | case1 => exact ⟨[], rfl, rfl⟩
  | case2 lines => exact ⟨lines.drop context, by simp [Segment.lines]⟩
  | case3 segment rest _ ih =>
    obtain ⟨same, first, second⟩ := ih
    exact ⟨same, by simp [first], by simp [second]⟩

/-- A group that shows no change has kept lines only. -/
theorem eq_of_showsChange {group : List (Segment α)} (hidden : showsChange group = false) :
    oldLines (group.flatMap Segment.lines) = newLines (group.flatMap Segment.lines) := by
  unfold showsChange at hidden
  split at hidden
  · rfl
  · simp [Segment.lines]
  · cases hidden

/-- The first and the last lines of a long list have others between them. -/
theorem exists_gap (context : Nat) {lines : List α} (long : 2 * context ≤ lines.length) :
    ∃ gap, lines = lines.take context ++ (gap ++ lines.drop (lines.length - context)) := by
  refine ⟨(lines.take (lines.length - context)).drop context, ?_⟩
  have start : lines.take context = (lines.take (lines.length - context)).take context := by
    rw [List.take_take, Nat.min_eq_left (by omega)]
  rw [start, ← List.append_assoc, List.take_append_drop, List.take_append_drop]

/-- Cutting leaves out kept lines between the groups, and at the end what
shows no change. -/
theorem cut_fits (context : Nat) (group segments : List (Segment α)) :
    Fits ((cut context group segments).map (·.flatMap Segment.lines))
      (oldLines ((group ++ segments).flatMap Segment.lines))
      (newLines ((group ++ segments).flatMap Segment.lines)) := by
  fun_induction cut context group segments with
  | case1 group shown => simpa using Fits.group [] (group.flatMap Segment.lines) (.rest [])
  | case2 group hidden =>
    rw [List.append_nil, eq_of_showsChange (Bool.eq_false_iff.2 hidden)]
    exact .rest _
  | case3 group lines rest long ih =>
    obtain ⟨gap, parts⟩ := exists_gap context (by omega : 2 * context ≤ lines.length)
    have fits := Fits.group []
      ((group ++ [Segment.same (lines.take context)]).flatMap Segment.lines) (ih.prepend gap)
    have old : oldLines ((group ++ Segment.same lines :: rest).flatMap Segment.lines)
        = oldLines (group.flatMap Segment.lines)
          ++ (lines.take context ++ (gap ++ lines.drop (lines.length - context)))
          ++ oldLines (rest.flatMap Segment.lines) := by
      rw [← parts]
      simp [Segment.lines]
    have new : newLines ((group ++ Segment.same lines :: rest).flatMap Segment.lines)
        = newLines (group.flatMap Segment.lines)
          ++ (lines.take context ++ (gap ++ lines.drop (lines.length - context)))
          ++ newLines (rest.flatMap Segment.lines) := by
      rw [← parts]
      simp [Segment.lines]
    rw [old, new]
    simpa [Segment.lines] using fits
  | case4 group lines rest _ ih => simpa using ih
  | case5 group segment rest _ ih => simpa using ih

/-- The groups of a comparison lie one after the other in both lists, which
are the same before, between and after them. -/
theorem groups_fit [DecidableEq α] (context : Nat) (old new : List α) :
    Fits ((groups context old new).map (·.flatMap Segment.lines)) old new := by
  have turned := script_turns old new
  have compacted := compact_agrees (script old new)
  let segments := Segment.ofScript (compact (script old new))
  have olds : oldLines (segments.flatMap Segment.lines) = old := by
    rw [Segment.old_ofScript, compacted.old, turned.old]
  have news : newLines (segments.flatMap Segment.lines) = new := by
    rw [Segment.new_ofScript, compacted.new, turned.new]
  obtain ⟨first, firstOld, firstNew⟩ := exists_trimFirst context segments
  obtain ⟨last, lastOld, lastNew⟩ := exists_trimLast context (trimFirst context segments)
  have fits := ((cut_fits context [] (trimLast context (trimFirst context segments))).append
    last).prepend first
  rwa [List.nil_append, ← lastOld, ← lastNew, ← firstOld, ← firstNew, olds, news] at fits

end Groups

end OpenApiTypes.Diff
