import RouteView.Proofs.Pattern.Draft

/-!
# Patterns and their written forms

A canonical sequence is read from its written form wherever that stands in a source (`run_print`), and only
brackets make a source malformed (`parse_eq_error`).  Sources with balanced brackets and canonical sequences are
thus the same thing (`parse_print_bijective`).
-/
set_option autoImplicit false
namespace RouteView.Segments

namespace Draft

/-! ## Reading a written form -/

theorem run_skip {r : Draft} {rest : Text} (name : Text) : ∀ {offset : Nat},
    r.run offset name.length (name ++ rest) = r.run (offset + Text.byteLength name) 0 rest := by
  induction name with
  | nil => intro offset; rfl
  | cons c name ih =>
      intro offset
      rw [List.length_cons, List.cons_append, run, ih, Text.byteLength, Nat.add_assoc]

theorem run_text {rest : Text} (text : Text) : ∀ (r : Draft) (offset : Nat), '[' ∉ text → ']' ∉ text →
    (∀ before after, text = before ++ ':' :: after → nameOf (after ++ rest) = []) →
    r.run offset 0 (text ++ rest) =
      ({ r with pending := r.pending ++ text } : Draft).run (offset + Text.byteLength text) 0 rest := by
  induction text with
  | nil => simp [Text.byteLength]
  | cons c text ih =>
      intro r offset opens closes colon
      rw [List.mem_cons, not_or] at opens closes
      have read : Reads r (text ++ rest) c { r with pending := r.pending ++ [c] } 0 := by
        refine .text (Ne.symm opens.1) (Ne.symm closes.1) ?_
        rintro rfl
        exact colon [] text rfl
      have later : ∀ before after, text = before ++ ':' :: after → nameOf (after ++ rest) = [] := by
        rintro before after rfl
        exact colon (c :: before) after rfl
      rw [List.cons_append, run, step_eq_some.mpr read]
      simp only [ih _ _ opens.2 closes.2 later, List.append_assoc, List.singleton_append, Text.byteLength,
        Nat.add_assoc]

def Breaks : Text → Prop
  | [] => True
  | c :: rest => c = '[' ∨ c = ']' ∨ c = ':' ∧ nameOf rest ≠ []

theorem run_whole {r : Draft} {offset : Nat} {rest : Text} (h : Breaks rest) :
    r.run offset 0 rest = (⟨r.whole, r.outer, []⟩ : Draft).run offset 0 rest := by
  have same : (⟨r.whole, r.outer, []⟩ : Draft).whole = r.whole := by rw [whole, if_pos rfl]
  cases rest with
  | nil => simp only [run, finish, same]
  | cons c rest =>
      have step : r.step c rest = (⟨r.whole, r.outer, []⟩ : Draft).step c rest := by
        rcases h with rfl | rfl | ⟨rfl, named⟩
        · simp [Draft.step, same]
        · simp [Draft.step, same]
        · simp [Draft.step, same, named]
      rw [run, run, step]

def Closes (text : Text) : Prop := text = [] ∨ ∃ rest, text = ']' :: rest

theorem breaks_print {segments : Segments} {rest : Text} (canonical : segments.Canonical)
    (other : segments.startsLiteral = false) (closes : Closes rest) : Breaks (segments.print ++ rest) := by
  cases segments with
  | nil =>
      rcases closes with rfl | ⟨rest, rfl⟩
      · trivial
      · exact Or.inr (Or.inl rfl)
  | literal text more => cases other
  | parameter name more =>
      obtain ⟨⟨c, word, rfl, letter, _⟩, _⟩ := canonical
      refine Or.inr (Or.inr ⟨rfl, fun unnamed => ?_⟩)
      have first := nameOf_eq_nil.mp unnamed c rfl
      rw [letter] at first
      cases first
  | optional children more => exact Or.inl rfl

theorem not_isWord_of_breaks {text : Text} (h : Breaks text) : ∀ c ∈ text.head?, isWord c = false := by
  cases text with
  | nil => simp
  | cons c rest =>
      rintro d ⟨⟩
      rcases h with rfl | rfl | ⟨rfl, _⟩ <;> decide

/-- No colon of a literal starts a parameter, neither inside it nor at its end. -/
theorem unnamed_of_isLiteral {text rest : Text} (literal : IsLiteral text) (breaks : Breaks rest) :
    ∀ before after, text = before ++ ':' :: after → nameOf (after ++ rest) = [] := by
  intro before after split
  cases after with
  | cons c after =>
      refine nameOf_eq_nil.mpr fun d first => ?_
      cases first
      exact literal.2.2.2 before c after split
  | nil =>
      refine nameOf_eq_nil.mpr fun d first => ?_
      have word := not_isWord_of_breaks breaks d first
      cases letter : isLetter d with
      | false => rfl
      | true => rw [isWord_of_isLetter letter] at word; cases word

theorem not_isWord_print {segments : Segments} {rest : Text} (canonical : segments.Canonical)
    (next : segments.startsWord = false) (closes : Closes rest) :
    ∀ c ∈ (segments.print ++ rest).head?, isWord c = false := by
  cases other : segments.startsLiteral with
  | false => exact not_isWord_of_breaks (breaks_print canonical other closes)
  | true =>
      cases segments with
      | literal text more =>
          cases text with
          | nil => exact absurd rfl canonical.1.1
          | cons c text =>
              rintro d ⟨⟩
              exact next
      | _ => cases other

/-- The written form of a canonical sequence is read as that sequence. -/
theorem run_print {segments : Segments} : ∀ (current : Segments) (outer : List Segments) (offset : Nat)
    {rest : Text}, segments.Canonical → Closes rest →
    (⟨current, outer, []⟩ : Draft).run offset 0 (segments.print ++ rest) =
      (⟨current.append segments, outer, []⟩ : Draft).run (offset + Text.byteLength segments.print) 0 rest := by
  induction segments with
  | nil =>
      intro current outer offset rest _ _
      rw [append_nil]
      rfl
  | literal text more ih =>
      intro current outer offset rest canonical closes
      obtain ⟨⟨nonempty, opens, ends, colons⟩, other, later⟩ := canonical
      have breaks := breaks_print later other closes
      have colon := unnamed_of_isLiteral ⟨nonempty, opens, ends, colons⟩ breaks
      have whole : (⟨current, outer, text⟩ : Draft).whole = current.append (literal text nil) := by
        rw [Draft.whole, if_neg nonempty]
      have read := run_text text ⟨current, outer, []⟩ offset opens ends colon
      rw [List.nil_append, run_whole breaks, whole] at read
      rw [print, List.append_assoc, read, ih _ _ _ later closes, append_assoc, Text.byteLength_append, Nat.add_assoc]
      rfl
  | parameter name more ih =>
      intro current outer offset rest canonical closes
      obtain ⟨isName, next, later⟩ := canonical
      have named : nameOf (name ++ (more.print ++ rest)) = name :=
        nameOf_append isName (not_isWord_print later next closes)
      have nonempty : nameOf (name ++ (more.print ++ rest)) ≠ [] := by
        obtain ⟨c, word, rfl, _⟩ := isName
        rw [named]
        simp
      have read : Reads ⟨current, outer, []⟩ _ ':' _ _ := .name nonempty
      rw [named] at read
      rw [print, List.cons_append, List.cons_append, List.append_assoc, run, step_eq_some.mpr read]
      simp only [Draft.whole, if_true]
      rw [run_skip, ih _ _ _ later closes, append_assoc, Text.byteLength, Text.byteLength_append]
      simp only [Nat.add_assoc]
      rfl
  | optional children more ihc ihr =>
      intro current outer offset rest canonical closes
      obtain ⟨inside, later⟩ := canonical
      have closed : Closes (']' :: (more.print ++ rest)) := Or.inr ⟨_, rfl⟩
      have inner := ihc nil (current :: outer) (offset + '['.utf8Size) inside closed
      have closing : (⟨children, current :: outer, []⟩ : Draft).step ']' (more.print ++ rest) =
          some (⟨current.append (optional children nil), outer, []⟩, 0) :=
        step_eq_some.mpr (.closing rfl)
      have opening : (⟨current, outer, []⟩ : Draft).step '[' (children.print ++ ']' :: (more.print ++ rest)) =
          some (⟨nil, current :: outer, []⟩, 0) := step_eq_some.mpr .opening
      have written : (optional children more).print ++ rest =
          '[' :: (children.print ++ ']' :: (more.print ++ rest)) := by simp [print]
      rw [written, run, opening]
      simp only
      rw [inner, run, append, closing]
      simp only
      rw [ihr _ _ _ later closes, append_assoc, print]
      simp only [List.cons_append, Text.byteLength, Text.byteLength_append, Nat.add_assoc]
      rfl

end Draft

/-! ## Brackets -/

/-- The first fault of the brackets of a source that stands inside `depth` open groups, from byte `offset` on. -/
def imbalance (depth offset : Nat) : Text → Option PatternFault
  | [] => if depth = 0 then none else some (.unclosed depth)
  | c :: rest =>
      if c = '[' then imbalance (depth + 1) (offset + c.utf8Size) rest
      else if c = ']' then
        match depth with
        | 0 => some (.unmatched offset)
        | outer + 1 => imbalance outer (offset + c.utf8Size) rest
      else imbalance depth (offset + c.utf8Size) rest

theorem imbalance_other {depth offset : Nat} {c : Char} {rest : Text} (opens : c ≠ '[') (closes : c ≠ ']') :
    imbalance depth offset (c :: rest) = imbalance depth (offset + c.utf8Size) rest := by
  rw [imbalance.eq_def]
  simp only [if_neg opens, if_neg closes]

theorem not_bracket_of_isWord {c : Char} (h : isWord c = true) : c ≠ '[' ∧ c ≠ ']' := by
  constructor
  · rintro rfl
    exact absurd h (by decide)
  · rintro rfl
    exact absurd h (by decide)

/-- A source is refused for its brackets and for nothing else; the depth is the height of the stack. -/
theorem Draft.run_eq_error {source : Text} {fault : PatternFault} : ∀ {r : Draft} {offset skip : Nat},
    (∀ c ∈ source.take skip, isWord c = true) →
    (r.run offset skip source = .error fault ↔ imbalance r.outer.length offset source = some fault) := by
  induction source with
  | nil =>
      intro r offset skip _
      rw [run, finish, imbalance]
      by_cases innermost : r.outer = []
      · simp [innermost]
      · simp [innermost]
  | cons c rest ih =>
      intro r offset skip words
      cases skip with
      | succ skip =>
          rw [List.take_succ_cons, List.forall_mem_cons] at words
          obtain ⟨opens, closes⟩ := not_bracket_of_isWord words.1
          rw [run, imbalance_other opens closes]
          exact ih words.2
      | zero =>
          rw [run]
          cases step : r.step c rest with
          | none =>
              obtain ⟨rfl, innermost⟩ := step_eq_none.mp step
              simp [imbalance, innermost]
          | some following =>
              obtain ⟨next, taken⟩ := following
              have unnamed : ∀ d ∈ rest.take 0, isWord d = true := by simp
              cases step_eq_some.mp step with
              | opening =>
                  simp only [imbalance, if_true]
                  exact ih unnamed
              | closing enclosing =>
                  simp only [imbalance, enclosing]
                  exact ih unnamed
              | name nonempty =>
                  have words : ∀ d ∈ rest.take (nameOf rest).length, isWord d = true := by
                    have front : rest.take (nameOf rest).length = nameOf rest := by
                      have parts := (nameOf_append_drop nonempty).1
                      exact List.append_cancel_right ((List.take_append_drop ..).trans parts.symm)
                    rw [front, nameOf_eq_takeWhile nonempty]
                    exact fun d member => List.mem_takeWhile_imp member
                  rw [imbalance_other (by decide) (by decide)]
                  exact ih words
              | text opens closes colon =>
                  rw [imbalance_other opens closes]
                  exact ih unnamed

def Balanced (text : Text) : Prop :=
  (∀ before, before <+: text → before.count ']' ≤ before.count '[') ∧ text.count ']' = text.count '['

theorem imbalance_eq_none {source : Text} : ∀ {depth offset : Nat},
    imbalance depth offset source = none ↔
      (∀ before, before <+: source → before.count ']' ≤ depth + before.count '[') ∧
        source.count ']' = depth + source.count '[' := by
  induction source with
  | nil =>
      intro depth offset
      simp [imbalance, List.prefix_nil]
      omega
  | cons c rest ih =>
      intro depth offset
      have prefixes : (∀ before, before <+: c :: rest → before.count ']' ≤ depth + before.count '[') ↔
          ∀ before, before <+: rest → (c :: before).count ']' ≤ depth + (c :: before).count '[' := by
        simp only [List.prefix_cons_iff]
        constructor
        · exact fun h before inside => h _ (Or.inr ⟨before, rfl, inside⟩)
        · rintro h before (rfl | ⟨shorter, rfl, inside⟩)
          · simp
          · exact h shorter inside
      rw [prefixes]
      by_cases opens : c = '['
      · subst opens
        have ends : ∀ text : Text, ('[' :: text).count ']' = text.count ']' :=
          fun text => List.count_cons_of_ne (by decide)
        have begins : ∀ text : Text, ('[' :: text).count '[' = 1 + text.count '[' :=
          fun text => List.count_cons_self.trans (Nat.add_comm ..)
        simp only [imbalance, if_true, ih, ends, begins, Nat.add_assoc]
      · have begins : ∀ text : Text, (c :: text).count '[' = text.count '[' :=
          fun text => List.count_cons_of_ne opens
        by_cases closes : c = ']'
        · subst closes
          have ends : ∀ text : Text, (']' :: text).count ']' = text.count ']' + 1 := fun text => List.count_cons_self
          simp only [ends, begins]
          cases depth with
          | zero =>
              have unmatched : imbalance 0 offset (']' :: rest) = some (.unmatched offset) := by simp [imbalance]
              rw [unmatched]
              constructor
              · intro h
                cases h
              · intro h
                have alone := h.1 [] List.nil_prefix
                simp at alone
          | succ depth =>
              have matched : imbalance (depth + 1) offset (']' :: rest) =
                  imbalance depth (offset + ']'.utf8Size) rest := by simp [imbalance]
              simp only [matched, ih, Nat.add_right_comm depth 1, Nat.add_le_add_iff_right, Nat.add_right_cancel_iff]
        · have ends : ∀ text : Text, (c :: text).count ']' = text.count ']' :=
            fun text => List.count_cons_of_ne closes
          simp only [imbalance_other opens closes, ih, begins, ends]

theorem parse_eq_ok {source : Text} {segments : Segments} :
    parse source = .ok segments ↔ segments.Canonical ∧ segments.print = source := by
  constructor
  · intro h
    have begun : Draft.Sound ⟨nil, [], []⟩ (source.drop 0) := ⟨trivial, by simp, by simp, fun _ _ => trivial, by simp⟩
    exact Draft.run_eq_ok begun h
  · rintro ⟨canonical, rfl⟩
    have read := Draft.run_print nil [] 0 canonical (Or.inl rfl)
    rw [List.append_nil] at read
    rw [parse, read]
    rfl

theorem parse_eq_error {source : Text} {fault : PatternFault} :
    parse source = .error fault ↔ imbalance 0 0 source = some fault :=
  Draft.run_eq_error (by simp)

theorem exists_parse_eq_ok {source : Text} : (∃ segments, parse source = .ok segments) ↔ Balanced source := by
  have balanced : Balanced source ↔ imbalance 0 0 source = none := by simp [Balanced, imbalance_eq_none]
  rw [balanced, Option.eq_none_iff_forall_ne_some]
  constructor
  · rintro ⟨segments, read⟩ fault unbalanced
    rw [parse_eq_error.mpr unbalanced] at read
    cases read
  · intro h
    cases read : parse source with
    | error fault => exact absurd (parse_eq_error.mp read) (h fault)
    | ok segments => exact ⟨segments, rfl⟩

/-- Reading and printing go back and forth between the sources with balanced brackets and the canonical
sequences. -/
theorem parse_print_bijective :
    (∀ source segments, parse source = .ok segments ↔ segments.Canonical ∧ segments.print = source) ∧
      ∀ source, (∃ segments, parse source = .ok segments) ↔ Balanced source :=
  ⟨fun _ _ => parse_eq_ok, fun _ => exists_parse_eq_ok⟩

/-- Colons in a row, one at the end of a text, a name that a bracket ends, and an empty group. -/
example : parse "::a[][é:[:b]]" = .ok (.literal [':'] (.parameter ['a'] (.optional .nil
    (.optional (.literal ['é', ':'] (.optional (.parameter ['b'] .nil) .nil)) .nil)))) := by decide

end RouteView.Segments
