import RouteView.Text.Basic

/-!
# Cutting at a separator

A separator is a place to cut and nothing else is: the pieces of two texts with a separator between them are those
of the first, then those of the second (`splitOn_append`), and a text without separators only lengthens the last
piece (`splitOn_append_plain`).  Hence pieces without separators come back when they are joined and cut again
(`splitOn_pieces`).
-/
set_option autoImplicit false
namespace RouteView.Text
variable {sep : Char}

theorem splitOn_of_not_mem {text : Text} (plain : sep ∉ text) : splitOn sep text = [text] := by
  induction text with
  | nil => rfl
  | cons c rest ih =>
      rw [List.mem_cons, not_or] at plain
      rw [splitOn, if_neg (Ne.symm plain.1), ih plain.2]

theorem splitOn_append (first second : Text) :
    splitOn sep (first ++ sep :: second) = splitOn sep first ++ splitOn sep second := by
  induction first with
  | nil => simp [splitOn]
  | cons c first ih =>
      rw [List.cons_append, splitOn, splitOn, ih]
      by_cases same : c = sep
      · rw [if_pos same, if_pos same, List.cons_append]
      · rw [if_neg same, if_neg same]
        cases found : splitOn sep first with
        | nil => exact absurd found (splitOn_ne_nil sep first)
        | cons piece pieces => rfl

theorem not_mem_of_mem_splitOn {text : Text} : ∀ piece ∈ splitOn sep text, sep ∉ piece := by
  induction text with
  | nil => simp [splitOn]
  | cons c rest ih =>
      rw [splitOn]
      by_cases same : c = sep
      · rw [if_pos same, List.forall_mem_cons]
        exact ⟨List.not_mem_nil, ih⟩
      · rw [if_neg same]
        cases found : splitOn sep rest with
        | nil => exact absurd found (splitOn_ne_nil sep rest)
        | cons first pieces =>
            rw [found, List.forall_mem_cons] at ih
            refine List.forall_mem_cons.mpr ⟨?_, ih.2⟩
            rw [List.mem_cons, not_or]
            exact ⟨Ne.symm same, ih.1⟩

/-- Text without separators belongs to the piece that it follows. -/
theorem splitOn_append_plain (sep : Char) (text : Text) : ∃ front last, splitOn sep text = front ++ [last] ∧
    ∀ more, sep ∉ more → splitOn sep (text ++ more) = front ++ [last ++ more] := by
  by_cases member : sep ∈ text.reverse
  · obtain ⟨after, before, reversed, plain⟩ := List.eq_append_cons_of_mem member
    have whole : text = before.reverse ++ sep :: after.reverse := by
      rw [← List.reverse_reverse text, reversed]
      simp
    have last : sep ∉ after.reverse := by simpa using plain
    refine ⟨splitOn sep before.reverse, after.reverse, ?_, fun more tail => ?_⟩
    · rw [whole, splitOn_append, splitOn_of_not_mem last]
    · have longer : sep ∉ after.reverse ++ more := by simp_all
      rw [whole, List.append_assoc, List.cons_append, splitOn_append, splitOn_of_not_mem longer]
  · have plain : sep ∉ text := by simpa using member
    refine ⟨[], text, splitOn_of_not_mem plain, fun more tail => ?_⟩
    exact splitOn_of_not_mem (by simp [plain, tail])

theorem splitOn_pieces {pieces : List Text} (nonempty : pieces ≠ []) (plain : ∀ piece ∈ pieces, sep ∉ piece) :
    splitOn sep (join [sep] pieces) = pieces := by
  induction pieces with
  | nil => exact absurd rfl nonempty
  | cons piece rest ih =>
      rw [List.forall_mem_cons] at plain
      cases rest with
      | nil => exact splitOn_of_not_mem plain.1
      | cons next more =>
          have later := ih (List.cons_ne_nil next more) plain.2
          have joined : join [sep] (piece :: next :: more) = piece ++ sep :: join [sep] (next :: more) := by
            simp [join]
          rw [joined, splitOn_append, splitOn_of_not_mem plain.1, later, List.singleton_append]

end RouteView.Text
