import Mathlib.Data.List.Infix
import RouteView.Proofs.Pattern.Readings

/-!
# Marks and readings

Marks stand for a predicate on the suffixes of a path.  Each function on marks is stated here by what it
does to that predicate: `accept_marking` says that `accept` marks the suffixes some reading of which ends
at a marked one, and `find?_readings` that `choose` returns the first such reading.  `firstReading_eq`
puts the two together for whole paths.
-/
set_option autoImplicit false
namespace RouteView.Segments

def marking (p : Text → Bool) (path : Text) : Marks := path.tails.map p

theorem marking_cons (p : Text → Bool) (c : Char) (path : Text) :
    marking p (c :: path) = p (c :: path) :: marking p path := by
  simp [marking]

theorem headD_marking (p : Text → Bool) (path : Text) : (marking p path).headD false = p path := by
  cases path with
  | nil => rfl
  | cons c path => rw [marking_cons]; rfl

theorem drop_marking (p : Text → Bool) (first left : Text) :
    (marking p (first ++ left)).drop first.length = marking p left := by
  induction first with
  | nil => rfl
  | cons c first ih => rw [List.cons_append, marking_cons, List.length_cons, List.drop_succ_cons, ih]

theorem endMarks_eq (path : Text) : endMarks path = marking List.isEmpty path := by
  induction path with
  | nil => rfl
  | cons c path ih =>
      rw [marking_cons, ← ih]
      simp [endMarks, List.replicate_succ]

/-! ## What can be accepted -/

theorem acceptChar_marking (c : Char) (p : Text → Bool) (path : Text) :
    acceptChar c path (marking p path) = marking (fun t => t.head? == some c && p t.tail) path := by
  induction path with
  | nil => rfl
  | cons d path ih =>
      rw [marking_cons, marking_cons, acceptChar, headD_marking, ih]
      simp

theorem acceptLiteral_marking (text : Text) (p : Text → Bool) (path : Text) :
    acceptLiteral text path (marking p path) =
      marking (fun t => text.isPrefixOf t && p (t.drop text.length)) path := by
  induction text with
  | nil => simp [acceptLiteral]
  | cons c text ih =>
      rw [acceptLiteral, List.foldr_cons]
      change acceptChar c path (acceptLiteral text path (marking p path)) = _
      rw [ih, acceptChar_marking]
      congr 1
      funext t
      cases t with
      | nil => simp
      | cons d t => simp [List.isPrefixOf_cons_cons, Bool.and_assoc, Bool.beq_comm]

theorem acceptParameter_marking (p : Text → Bool) (path : Text) :
    acceptParameter path (marking p path) = marking (fun t => (heads t).any fun head => p head.2) path := by
  induction path with
  | nil => rfl
  | cons d path ih =>
      rw [marking_cons, marking_cons, acceptParameter, ih, headD_marking, headD_marking]
      by_cases hd : d = '/'
      · simp [hd, heads]
      · simp [hd, heads, List.any_append, List.any_map, Function.comp_def, Bool.or_comm]

theorem any_after (p : Text → Bool) (earlier : List Choice) (list : List Reading) :
    ((list.map (Reading.after earlier)).any fun reading => p reading.2) = list.any fun reading => p reading.2 := by
  simp [Reading.after, List.any_map, Function.comp_def]

theorem find?_after (p : Text → Bool) (earlier : List Choice) (list : List Reading) :
    ((list.map (Reading.after earlier)).find? fun reading => p reading.2) =
      (list.find? fun reading => p reading.2).map (Reading.after earlier) := by
  simp [Reading.after, List.find?_map, Function.comp_def]

def reaches (segments : Segments) (p : Text → Bool) (path : Text) : Bool :=
  (readings segments path).any fun reading => p reading.2

theorem reaches_nil (p : Text → Bool) (path : Text) : nil.reaches p path = p path := by
  simp [reaches, readings]

theorem reaches_literal (text : Text) (rest : Segments) (p : Text → Bool) (path : Text) :
    (literal text rest).reaches p path = (text.isPrefixOf path && rest.reaches p (path.drop text.length)) := by
  by_cases isPrefix : text <+: path <;> simp [reaches, readings, isPrefix]

theorem reaches_parameter (name : Text) (rest : Segments) (p : Text → Bool) (path : Text) :
    (parameter name rest).reaches p path = (heads path).any fun head => rest.reaches p head.2 := by
  simp only [reaches, readings, List.any_flatMap, any_after]

theorem reaches_optional (children rest : Segments) (p : Text → Bool) (path : Text) :
    (optional children rest).reaches p path =
      (children.reaches (rest.reaches p) path || rest.reaches p path) := by
  simp only [reaches, readings, List.any_append, List.any_flatMap, any_after]

theorem accept_marking (segments : Segments) : ∀ (p : Text → Bool) (path : Text),
    accept segments path (marking p path) = marking (segments.reaches p) path := by
  induction segments with
  | nil =>
      intro p path
      rw [accept, funext (reaches_nil p)]
  | literal text rest ih =>
      intro p path
      rw [accept, ih, acceptLiteral_marking, funext (reaches_literal text rest p)]
  | parameter name rest ih =>
      intro p path
      rw [accept, ih, acceptParameter_marking, funext (reaches_parameter name rest p)]
  | optional children rest ihc ihr =>
      intro p path
      rw [accept, ihr, ihc, funext (reaches_optional children rest p), marking, marking, List.zipWith_map,
        List.zipWith_self, marking]

/-! ## What is chosen -/

/-- The first hit in a list of lists is that of the first list with a hit. -/
theorem find?_flatMap_of_find? {α β : Type} {f : α → List β} {p : β → Bool} {x : α} {list : List α}
    (h : list.find? (fun y => (f y).any p) = some x) : (list.flatMap f).find? p = (f x).find? p := by
  induction list with
  | nil => simp at h
  | cons y list ih =>
      rw [List.find?_cons] at h
      rw [List.flatMap_cons, List.find?_append]
      cases hit : (f y).any p with
      | true =>
          rw [hit] at h
          cases h
          obtain ⟨z, found⟩ := Option.isSome_iff_exists.mp (List.isSome_find?.trans hit)
          rw [found, Option.some_or]
      | false =>
          rw [hit] at h
          have missing : (f y).find? p = none := by
            rw [List.find?_eq_none]
            exact List.any_eq_false.mp hit
          rw [missing, Option.none_or, ih h]

theorem longest_marking (p : Text → Bool) (path : Text) :
    longest path (marking p path) =
      (((heads path).find? fun head => p head.2).map fun head => head.1.length).getD 0 := by
  induction path with
  | nil => rfl
  | cons d path ih =>
      rw [marking_cons, longest, ih, headD_marking, heads]
      by_cases hd : d = '/'
      · simp [hd]
      · rw [if_neg hd, if_neg hd, List.find?_append, List.find?_map]
        simp only [Function.comp_def]
        cases found : (heads path).find? fun head => p head.2 with
        | none => by_cases hp : p path <;> simp [hp]
        | some head =>
            have nonempty := (mem_heads.mp (List.mem_of_find?_eq_some found)).1.1
            obtain ⟨n, hn⟩ := Nat.exists_eq_succ_of_ne_zero (fun h => nonempty (List.length_eq_zero_iff.mp h))
            simp [hn]

/-- The first reading that leaves a marked suffix is the chosen one. -/
theorem find?_readings (segments : Segments) : ∀ {p : Text → Bool} {path : Text},
    segments.reaches p path = true →
    ((readings segments path).find? fun reading => p reading.2) =
      some (choose segments path (marking p path)) := by
  induction segments with
  | nil =>
      intro p path h
      rw [reaches_nil] at h
      simp [readings, choose, h]
  | literal text rest ih =>
      intro p path h
      rw [reaches_literal, Bool.and_eq_true, List.isPrefixOf_iff_prefix] at h
      obtain ⟨⟨left, rfl⟩, h⟩ := h
      rw [List.drop_left] at h
      rw [readings, if_pos (List.prefix_append ..), choose, drop_marking, List.drop_left]
      exact ih h
  | parameter name rest ih =>
      intro p path h
      rw [reaches_parameter, ← List.isSome_find?, Option.isSome_iff_exists] at h
      obtain ⟨⟨text, left⟩, found⟩ := h
      obtain ⟨_, rfl⟩ := mem_heads.mp (List.mem_of_find?_eq_some found)
      have reached : rest.reaches p left = true := by simpa using List.find?_some found
      rw [readings, find?_flatMap_of_find? (x := (text, left)) (by simpa only [any_after, reaches] using found),
        find?_after, ih reached, choose, accept_marking, longest_marking, found]
      simp [Reading.after, drop_marking]
  | optional children rest ihc ihr =>
      intro p path h
      rw [reaches_optional, Bool.or_eq_true] at h
      rw [readings, List.find?_append, choose, accept_marking, accept_marking, headD_marking]
      by_cases taken : children.reaches (rest.reaches p) path = true
      · have found := ihc taken
        obtain ⟨first, split, _⟩ := mem_readings.mp (List.mem_of_find?_eq_some found)
        have reached : rest.reaches p (choose children path (marking (rest.reaches p) path)).2 = true := by
          simpa using List.find?_some found
        rw [if_pos taken, find?_flatMap_of_find? (by simpa only [any_after, reaches] using found), find?_after,
          ihr reached, Option.map_some, Option.some_or]
        generalize choose children path (marking (rest.reaches p) path) = inner at split ⊢
        subst split
        simp [Reading.after, drop_marking]
      · have missing : ((readings children path).flatMap fun inner =>
            (readings rest inner.2).map (Reading.after (.take :: inner.1))).find? (fun reading => p reading.2) =
              none := by
          rw [← Option.not_isSome_iff_eq_none, List.isSome_find?]
          simpa only [reaches, List.any_flatMap, any_after] using taken
        rw [if_neg taken, missing, Option.none_or, find?_after, ihr (h.resolve_left taken)]
        rfl

theorem firstReading_eq (segments : Segments) (path : Text) :
    firstReading segments path =
      ((readings segments path).find? fun reading => reading.2.isEmpty).map Prod.fst := by
  rw [firstReading, endMarks_eq, accept_marking, headD_marking]
  by_cases reached : segments.reaches List.isEmpty path = true
  · rw [if_pos reached, find?_readings segments reached, Option.map_some]
  · have missing : ((readings segments path).find? fun reading => reading.2.isEmpty) = none := by
      rw [← Option.not_isSome_iff_eq_none, List.isSome_find?]
      exact reached
    rw [if_neg reached, missing, Option.map_none]

end RouteView.Segments
