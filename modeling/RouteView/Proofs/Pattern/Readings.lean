import RouteView.Pattern.Matching

/-!
# All readings of a path

`readings` lists the ways in which segments read a start of a path, each as its choices and what is left
of the path.  `mem_readings` says that these are the derivations, `pairwise_readings` that the preferred
ones come first, and `Choice.precedes_asymm` that no two readings are preferred to each other.
-/
set_option autoImplicit false
namespace RouteView

/-! ## The order of readings -/

namespace Choice

theorem before_asymm {a b : Choice} (h : a.Before b) : ¬ b.Before a := by
  cases a <;> cases b <;> simp only [Before, not_false_eq_true] at h ⊢
  omega

theorem precedes_cons {a b : Choice} {x y : List Choice} :
    Precedes (a :: x) (b :: y) ↔ a.Before b ∨ (a = b ∧ Precedes x y) := by
  constructor
  · rintro ⟨shared, c, d, more, others, hx, hy, hb⟩
    cases shared with
    | nil =>
        simp only [List.nil_append, List.cons.injEq] at hx hy
        obtain ⟨rfl, rfl⟩ := hx
        obtain ⟨rfl, rfl⟩ := hy
        exact Or.inl hb
    | cons first shared =>
        simp only [List.cons_append, List.cons.injEq] at hx hy
        obtain ⟨rfl, rfl⟩ := hx
        obtain ⟨rfl, rfl⟩ := hy
        exact Or.inr ⟨rfl, shared, c, d, more, others, rfl, rfl, hb⟩
  · rintro (hb | ⟨rfl, shared, c, d, more, others, rfl, rfl, hb⟩)
    · exact ⟨[], a, b, x, y, rfl, rfl, hb⟩
    · exact ⟨a :: shared, c, d, more, others, rfl, rfl, hb⟩

theorem not_precedes_nil (x : List Choice) : ¬ Precedes x [] := by
  rintro ⟨shared, a, b, more, others, _, hy, _⟩
  simp at hy

theorem precedes_asymm {x : List Choice} : ∀ {y : List Choice}, Precedes x y → ¬ Precedes y x := by
  induction x with
  | nil => intro y _; exact not_precedes_nil y
  | cons a x ih =>
      intro y h
      cases y with
      | nil => exact absurd h (not_precedes_nil _)
      | cons b y =>
          rw [precedes_cons] at h ⊢
          rintro (hb | ⟨rfl, hy⟩)
          · rcases h with ha | ⟨rfl, _⟩
            · exact before_asymm ha hb
            · exact before_asymm hb hb
          · rcases h with ha | ⟨_, hx⟩
            · exact before_asymm ha ha
            · exact ih hx hy

theorem precedes_append_right {x y : List Choice} (h : Precedes x y) (u v : List Choice) :
    Precedes (x ++ u) (y ++ v) := by
  obtain ⟨shared, a, b, more, others, rfl, rfl, hb⟩ := h
  exact ⟨shared, a, b, more ++ u, others ++ v, by simp, by simp, hb⟩

theorem precedes_append_left (shared : List Choice) {x y : List Choice} (h : Precedes x y) :
    Precedes (shared ++ x) (shared ++ y) := by
  obtain ⟨before, a, b, more, others, rfl, rfl, hb⟩ := h
  exact ⟨shared ++ before, a, b, more, others, by simp, by simp, hb⟩

end Choice

namespace Segments

/-! ## Derivations by the first segment -/

theorem derives_nil {path : Text} {choices : List Choice} :
    Derives nil path choices ↔ path = [] ∧ choices = [] := by
  constructor
  · intro h
    cases h
    exact ⟨rfl, rfl⟩
  · rintro ⟨rfl, rfl⟩
    exact .nil

theorem derives_literal {text path : Text} {rest : Segments} {choices : List Choice} :
    Derives (literal text rest) path choices ↔ ∃ after, path = text ++ after ∧ Derives rest after choices := by
  constructor
  · intro h
    cases h with
    | literal h => exact ⟨_, rfl, h⟩
  · rintro ⟨after, rfl, h⟩
    exact .literal h

theorem derives_parameter {name path : Text} {rest : Segments} {choices : List Choice} :
    Derives (parameter name rest) path choices ↔
      ∃ text after more, path = text ++ after ∧ choices = .capture name text :: more ∧
        Fills text ∧ Derives rest after more := by
  constructor
  · intro h
    cases h with
    | parameter fills h => exact ⟨_, _, _, rfl, rfl, fills, h⟩
  · rintro ⟨text, after, more, rfl, rfl, fills, h⟩
    exact .parameter fills h

theorem derives_optional {children rest : Segments} {path : Text} {choices : List Choice} :
    Derives (optional children rest) path choices ↔
      (∃ first second inner outer, path = first ++ second ∧ choices = .take :: inner ++ outer ∧
        Derives children first inner ∧ Derives rest second outer) ∨
      ∃ more, choices = .skip :: more ∧ Derives rest path more := by
  constructor
  · intro h
    cases h with
    | take hc hr => exact Or.inl ⟨_, _, _, _, rfl, rfl, hc, hr⟩
    | skip h => exact Or.inr ⟨_, rfl, h⟩
  · rintro (⟨first, second, inner, outer, rfl, rfl, hc, hr⟩ | ⟨more, rfl, h⟩)
    · exact .take hc hr
    · exact .skip h

/-! ## Readings of a start of a path -/

abbrev Reading := List Choice × Text

def Reading.after (earlier : List Choice) (reading : Reading) : Reading :=
  (earlier ++ reading.1, reading.2)

def heads : Text → List (Text × Text)
  | [] => []
  | d :: path => if d = '/' then [] else (heads path).map (fun head => (d :: head.1, head.2)) ++ [([d], path)]

/-- The readings of the starts of a path, the preferred ones first. -/
def readings : Segments → Text → List Reading
  | nil, path => [([], path)]
  | literal text rest, path => if text <+: path then readings rest (path.drop text.length) else []
  | parameter name rest, path =>
      (heads path).flatMap fun head =>
        (readings rest head.2).map (Reading.after [.capture name head.1])
  | optional children rest, path =>
      ((readings children path).flatMap fun inner =>
        (readings rest inner.2).map (Reading.after (.take :: inner.1))) ++
      (readings rest path).map (Reading.after [.skip])

theorem mem_heads {text left : Text} : ∀ {path : Text},
    (text, left) ∈ heads path ↔ Fills text ∧ path = text ++ left := by
  intro path
  induction path generalizing text with
  | nil =>
      constructor
      · intro h; simp [heads] at h
      · rintro ⟨⟨nonempty, _⟩, h⟩
        exact absurd (List.append_eq_nil_iff.mp h.symm).1 nonempty
  | cons d path ih =>
      by_cases hd : d = '/'
      · subst hd
        simp only [heads, if_true, List.not_mem_nil, false_iff]
        rintro ⟨⟨nonempty, noSlash⟩, h⟩
        cases text with
        | nil => exact nonempty rfl
        | cons c text =>
            simp only [List.cons_append, List.cons.injEq] at h
            exact noSlash (h.1 ▸ List.mem_cons_self ..)
      · simp only [heads, if_neg hd, List.mem_append, List.mem_map, Prod.mk.injEq, List.mem_singleton]
        constructor
        · rintro (⟨⟨more, after⟩, hm, rfl, rfl⟩ | ⟨rfl, rfl⟩)
          · obtain ⟨⟨_, noSlash⟩, rfl⟩ := ih.mp hm
            exact ⟨⟨by simp, by simp [Ne.symm hd, noSlash]⟩, rfl⟩
          · exact ⟨⟨by simp, by simpa using Ne.symm hd⟩, rfl⟩
        · rintro ⟨⟨nonempty, noSlash⟩, h⟩
          cases text with
          | nil => exact absurd rfl nonempty
          | cons c more =>
              simp only [List.cons_append, List.cons.injEq] at h
              obtain ⟨rfl, rfl⟩ := h
              cases more with
              | nil => exact Or.inr ⟨rfl, rfl⟩
              | cons e more =>
                  refine Or.inl ⟨(e :: more, left), ih.mpr ⟨⟨by simp, ?_⟩, rfl⟩, rfl, rfl⟩
                  exact fun hs => noSlash (List.mem_cons_of_mem _ hs)

theorem mem_readings {segments : Segments} : ∀ {path : Text} {choices : List Choice} {left : Text},
    (choices, left) ∈ readings segments path ↔
      ∃ text, path = text ++ left ∧ Derives segments text choices := by
  induction segments with
  | nil =>
      intro path choices left
      simp only [readings, List.mem_singleton, Prod.mk.injEq, derives_nil]
      constructor
      · rintro ⟨rfl, rfl⟩; exact ⟨[], rfl, rfl, rfl⟩
      · rintro ⟨text, rfl, rfl, rfl⟩; exact ⟨rfl, rfl⟩
  | literal text rest ih =>
      intro path choices left
      simp only [readings, derives_literal]
      constructor
      · intro h
        split at h
        · next isPrefix =>
            obtain ⟨tail, rfl⟩ := isPrefix
            rw [List.drop_left] at h
            obtain ⟨after, rfl, hd⟩ := ih.mp h
            exact ⟨text ++ after, by simp, after, rfl, hd⟩
        · simp at h
      · rintro ⟨_, rfl, after, rfl, hd⟩
        rw [List.append_assoc, if_pos (List.prefix_append ..), List.drop_left]
        exact ih.mpr ⟨after, rfl, hd⟩
  | parameter name rest ih =>
      intro path choices left
      simp only [readings, derives_parameter, List.mem_flatMap, List.mem_map]
      constructor
      · rintro ⟨⟨text, tail⟩, hh, ⟨more, _⟩, hr, he⟩
        obtain ⟨fills, rfl⟩ := mem_heads.mp hh
        obtain ⟨after, rfl, hd⟩ := ih.mp hr
        cases he
        exact ⟨text ++ after, by simp, text, after, more, rfl, rfl, fills, hd⟩
      · rintro ⟨_, rfl, text, after, more, rfl, rfl, fills, hd⟩
        have head := mem_heads.mpr ⟨fills, (List.append_assoc text after left)⟩
        exact ⟨(text, after ++ left), head, (more, left), ih.mpr ⟨after, rfl, hd⟩, rfl⟩
  | optional children rest ihc ihr =>
      intro path choices left
      simp only [readings, derives_optional, List.mem_append, List.mem_flatMap, List.mem_map]
      constructor
      · rintro (⟨⟨inner, middle⟩, hc, ⟨outer, _⟩, hr, he⟩ | ⟨⟨more, _⟩, hr, he⟩)
        · obtain ⟨first, rfl, hdc⟩ := ihc.mp hc
          obtain ⟨second, rfl, hdr⟩ := ihr.mp hr
          cases he
          exact ⟨first ++ second, by simp, Or.inl ⟨first, second, inner, outer, rfl, rfl, hdc, hdr⟩⟩
        · obtain ⟨text, rfl, hd⟩ := ihr.mp hr
          cases he
          exact ⟨text, rfl, Or.inr ⟨more, rfl, hd⟩⟩
      · rintro ⟨text, rfl, ⟨first, second, inner, outer, rfl, rfl, hdc, hdr⟩ | ⟨more, rfl, hd⟩⟩
        · exact Or.inl ⟨(inner, second ++ left), ihc.mpr ⟨first, by simp, hdc⟩, (outer, left),
            ihr.mpr ⟨second, rfl, hdr⟩, rfl⟩
        · exact Or.inr ⟨(more, left), ihr.mpr ⟨text, rfl, hd⟩, rfl⟩

/-! ## The order of the list -/

theorem pairwise_heads (path : Text) :
    (heads path).Pairwise fun first second => second.1.length < first.1.length := by
  induction path with
  | nil => exact List.Pairwise.nil
  | cons d path ih =>
      by_cases hd : d = '/'
      · rw [heads, if_pos hd]
        exact List.Pairwise.nil
      · rw [heads, if_neg hd, List.pairwise_append]
        refine ⟨?_, List.pairwise_singleton .., ?_⟩
        · rw [List.pairwise_map]
          exact ih.imp fun h => by simpa using h
        · intro first hf second hs
          obtain ⟨⟨text, left⟩, hm, rfl⟩ := List.mem_map.mp hf
          rw [List.mem_singleton] at hs
          subst hs
          have nonempty := List.length_pos_iff.mpr (mem_heads.mp hm).1.1
          simpa using nonempty

theorem pairwise_after (earlier : List Choice) {list : List Reading}
    (h : list.Pairwise fun first second => Choice.Precedes first.1 second.1) :
    (list.map (Reading.after earlier)).Pairwise fun first second => Choice.Precedes first.1 second.1 := by
  rw [List.pairwise_map]
  exact h.imp fun hp => Choice.precedes_append_left earlier hp

theorem pairwise_readings (segments : Segments) : ∀ path : Text,
    (readings segments path).Pairwise fun first second => Choice.Precedes first.1 second.1 := by
  induction segments with
  | nil => intro path; exact List.pairwise_singleton ..
  | literal text rest ih =>
      intro path
      simp only [readings]
      split
      · exact ih _
      · exact List.Pairwise.nil
  | parameter name rest ih =>
      intro path
      simp only [readings, List.pairwise_flatMap]
      refine ⟨fun head _ => pairwise_after _ (ih head.2), (pairwise_heads path).imp ?_⟩
      intro head other longer first hf second hs
      obtain ⟨more, _, rfl⟩ := List.mem_map.mp hf
      obtain ⟨others, _, rfl⟩ := List.mem_map.mp hs
      exact Choice.precedes_cons.mpr (Or.inl longer)
  | optional children rest ihc ihr =>
      intro path
      simp only [readings, List.pairwise_append, List.pairwise_flatMap]
      -- readings of one inner reading, of two inner readings, and of a taken against a skipped group
      refine ⟨⟨fun inner _ => pairwise_after _ (ihr inner.2), (ihc path).imp ?_⟩,
        pairwise_after _ (ihr path), ?_⟩
      · intro inner other hp first hf second hs
        obtain ⟨more, _, rfl⟩ := List.mem_map.mp hf
        obtain ⟨others, _, rfl⟩ := List.mem_map.mp hs
        exact Choice.precedes_cons.mpr (Or.inr ⟨rfl, Choice.precedes_append_right hp _ _⟩)
      · intro first hf second hs
        obtain ⟨inner, _, hm⟩ := List.mem_flatMap.mp hf
        obtain ⟨more, _, rfl⟩ := List.mem_map.mp hm
        obtain ⟨others, _, rfl⟩ := List.mem_map.mp hs
        exact Choice.precedes_cons.mpr (Or.inl trivial)

end Segments
end RouteView
