import RouteView.Pattern.Basic
import RouteView.Proofs.Pattern.Backtracking

/-!
# The preferred reading

Among the derivations of a path one is preferred to all others, and a path is matched by it alone.
`captures?_priority` says what a pattern captures in terms of derivations: nothing when there is no
derivation or when the preferred one gives a name two texts, and else the map of the preferred one.
-/
set_option autoImplicit false
namespace RouteView.Segments

def IsFirst (segments : Segments) (path : Text) (choices : List Choice) : Prop :=
  Derives segments path choices ∧
    ∀ other, Derives segments path other → other = choices ∨ Choice.Precedes choices other

theorem IsFirst.unique {segments : Segments} {path : Text} {choices other : List Choice}
    (h : IsFirst segments path choices) (ho : IsFirst segments path other) : other = choices := by
  rcases h.2 other ho.1 with same | before
  · exact same
  · rcases ho.2 choices h.1 with same | after
    · exact same.symm
    · exact absurd after (Choice.precedes_asymm before)

/-- In a list in order the first hit precedes all other hits. -/
theorem eq_or_of_find? {α : Type} {R : α → α → Prop} {p : α → Bool} {a : α} {list : List α}
    (ordered : list.Pairwise R) (found : list.find? p = some a) :
    ∀ b ∈ list, p b = true → b = a ∨ R a b := by
  induction list with
  | nil => intro b member; simp at member
  | cons c list ih =>
      intro b member hit
      rw [List.find?_cons] at found
      rw [List.pairwise_cons] at ordered
      cases hc : p c with
      | true =>
          rw [hc] at found
          cases found
          rcases List.mem_cons.mp member with rfl | member
          · exact Or.inl rfl
          · exact Or.inr (ordered.1 b member)
      | false =>
          rw [hc] at found
          rcases List.mem_cons.mp member with rfl | member
          · rw [hc] at hit
            cases hit
          · exact ih ordered.2 found b member hit

theorem mem_readings_whole {segments : Segments} {path : Text} {choices : List Choice} :
    (choices, []) ∈ readings segments path ↔ Derives segments path choices := by
  rw [mem_readings]
  constructor
  · rintro ⟨text, rfl, h⟩
    rwa [List.append_nil]
  · intro h
    exact ⟨path, (List.append_nil _).symm, h⟩

theorem isFirst_of_firstReading {segments : Segments} {path : Text} {choices : List Choice}
    (h : firstReading segments path = some choices) : IsFirst segments path choices := by
  rw [firstReading_eq, Option.map_eq_some_iff] at h
  obtain ⟨⟨_, left⟩, found, rfl⟩ := h
  obtain rfl : left = [] := by simpa using List.find?_some found
  refine ⟨mem_readings_whole.mp (List.mem_of_find?_eq_some found), fun other ho => ?_⟩
  rcases eq_or_of_find? (pairwise_readings segments path) found _ (mem_readings_whole.mpr ho) rfl with same | before
  · exact Or.inl (congrArg Prod.fst same)
  · exact Or.inr before

theorem not_derives_of_firstReading {segments : Segments} {path : Text}
    (h : firstReading segments path = none) (choices : List Choice) : ¬ Derives segments path choices := by
  rw [firstReading_eq, Option.map_eq_none_iff, List.find?_eq_none] at h
  intro hd
  exact h (choices, []) (mem_readings_whole.mpr hd) rfl

theorem exists_isFirst {segments : Segments} {path : Text} {choices : List Choice}
    (h : Derives segments path choices) : ∃ first, IsFirst segments path first := by
  cases found : firstReading segments path with
  | none => exact absurd h (not_derives_of_firstReading found choices)
  | some first => exact ⟨first, isFirst_of_firstReading found⟩

theorem firstReading_of_isFirst {segments : Segments} {path : Text} {first : List Choice}
    (isFirst : IsFirst segments path first) : firstReading segments path = some first := by
  cases found : firstReading segments path with
  | none => exact absurd isFirst.1 (not_derives_of_firstReading found first)
  | some other => rw [isFirst.unique (isFirst_of_firstReading found)]

theorem isFirst_of_captures? {segments : Segments} {path : Text} {captures : Captures}
    (h : segments.captures? path = some captures) :
    ∃ choices, IsFirst segments path choices ∧ Records captures choices := by
  rw [captures?, Option.bind_eq_some_iff] at h
  obtain ⟨choices, found, hc⟩ := h
  obtain ⟨others, ho, records⟩ := capturesFrom_of_agrees (agrees_of_capturesFrom hc)
  cases ho.symm.trans hc
  exact ⟨choices, isFirst_of_firstReading found, records⟩

/-! ## Literals in front -/

section Literal
variable {text name path : Text}

/-- A literal does not match a path that begins differently. -/
theorem captures?_apart {other : Text} {rest : Segments} (begins : other <+: path)
    (apart : ¬ text <+: other ∧ ¬ other <+: text) : (literal text rest).captures? path = none := by
  rw [Option.eq_none_iff_forall_ne_some]
  intro captures matched
  obtain ⟨choices, first, _⟩ := isFirst_of_captures? matched
  obtain ⟨after, rfl, _⟩ := derives_literal.mp first.1
  rcases List.prefix_or_prefix_of_prefix (List.prefix_append text after) begins with inside | around
  · exact apart.1 inside
  · exact apart.2 around

theorem captures?_literal_nil {captures : Captures} (h : (literal text nil).captures? path = some captures) :
    path = text := by
  obtain ⟨choices, first, _⟩ := isFirst_of_captures? h
  obtain ⟨after, rfl, rest⟩ := derives_literal.mp first.1
  obtain ⟨rfl, _⟩ := derives_nil.mp rest
  exact List.append_nil text

theorem derives_literal_parameter {choices : List Choice} :
    Derives (literal text (parameter name nil)) path choices ↔
      ∃ value, path = text ++ value ∧ Fills value ∧ choices = [.capture name value] := by
  simp only [derives_literal, derives_parameter, derives_nil]
  constructor
  · rintro ⟨_, rfl, value, _, _, rfl, rfl, fills, rfl, rfl⟩
    exact ⟨value, by rw [List.append_nil], fills, rfl⟩
  · rintro ⟨value, rfl, fills, rfl⟩
    exact ⟨value, rfl, value, [], [], by rw [List.append_nil], rfl, fills, rfl, rfl⟩

/-- A literal and a parameter behind it match the literal with a text behind it. -/
theorem captures?_literal_parameter {captures : Captures} :
    (literal text (parameter name nil)).captures? path = some captures ↔
      ∃ value, path = text ++ value ∧ Fills value ∧ captures = [(name, value)] := by
  rw [captures?]
  cases found : firstReading (literal text (parameter name nil)) path with
  | none =>
      constructor
      · intro matched
        cases matched
      · rintro ⟨value, rfl, fills, rfl⟩
        exact absurd (derives_literal_parameter.mpr ⟨value, rfl, fills, rfl⟩) (not_derives_of_firstReading found _)
  | some choices =>
      obtain ⟨value, whole, fills, rfl⟩ := derives_literal_parameter.mp (isFirst_of_firstReading found).1
      rw [Option.bind_some]
      constructor
      · intro recorded
        cases recorded
        exact ⟨value, whole, fills, rfl⟩
      · rintro ⟨other, same, _, rfl⟩
        cases List.append_cancel_left (whole.symm.trans same)
        rfl

end Literal

/-! ## Patterns -/

/-- A pattern captures what the preferred derivation of the path gives to the names, provided it gives no
name two texts; its written expression, searched by backtracking, captures the same. -/
theorem captures?_priority (segments : Segments) (path : Text) :
    (segments.regex = '^' :: segments.compile.print ++ ['$'] ∧
      (Pattern.path segments).captures? path =
        (segments.compile.fullMatch path).bind (nameGroups [] segments.groupNames)) ∧
    ((¬ ∃ choices, Derives segments path choices) ∧ (Pattern.path segments).captures? path = none ∨
      ∃ choices, IsFirst segments path choices ∧ (∀ other, IsFirst segments path other → other = choices) ∧
        (¬ Agrees choices ∧ (Pattern.path segments).captures? path = none ∨
          Agrees choices ∧ ∃ captures, (Pattern.path segments).captures? path = some captures ∧
            Records captures choices)) := by
  refine ⟨⟨by rw [print_compile, regex], captures?_eq_nameGroups segments path⟩, ?_⟩
  rw [Pattern.captures?, captures?]
  cases h : firstReading segments path with
  | none =>
      refine Or.inl ⟨?_, rfl⟩
      rintro ⟨choices, hd⟩
      exact not_derives_of_firstReading h choices hd
  | some choices =>
      have first := isFirst_of_firstReading h
      refine Or.inr ⟨choices, first, fun other ho => first.unique ho, ?_⟩
      by_cases agrees : Agrees choices
      · exact Or.inr ⟨agrees, capturesFrom_of_agrees agrees⟩
      · exact Or.inl ⟨agrees, capturesFrom_of_not_agrees agrees⟩

/-- The preferred derivation alone counts: two names in a row that could share a text evenly are refused. -/
example : (Pattern.path (.parameter ['x'] (.parameter ['x'] .nil))).captures? ['a', 'a', 'a', 'a'] = none := by
  decide

end RouteView.Segments
