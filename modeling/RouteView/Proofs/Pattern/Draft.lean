import Mathlib.Data.List.TakeWhile
import RouteView.Pattern.Segments

/-!
# Drafts of a sequence

While a source is read, its draft is the written form of what was read (`Reads.written_eq`), and the segments in
it are canonical (`Reads.sound`).  `Reads` lists the ways to read one character; a whole run keeps what one
character keeps (`run_eq_ok`).
-/
set_option autoImplicit false
namespace RouteView.Segments

/-! ## One sequence after another -/

theorem append_nil (segments : Segments) : segments.append nil = segments := by
  induction segments with
  | nil => rfl
  | literal text rest ih => rw [append, ih]
  | parameter name rest ih => rw [append, ih]
  | optional children rest _ ih => rw [append, ih]

theorem append_assoc (first second third : Segments) :
    (first.append second).append third = first.append (second.append third) := by
  induction first with
  | nil => rfl
  | literal text rest ih => simp only [append, ih]
  | parameter name rest ih => simp only [append, ih]
  | optional children rest _ ih => simp only [append, ih]

theorem print_append (first second : Segments) : (first.append second).print = first.print ++ second.print := by
  induction first with
  | nil => rfl
  | literal text rest ih => simp [append, print, ih]
  | parameter name rest ih => simp [append, print, ih]
  | optional children rest _ ih => simp [append, print, ih]

/-- The kind of the last segment, as far as it restricts the next one. -/
inductive Ending
  | free
  | literal
  | name

def Ending.Allows (more : Segments) : Ending → Prop
  | free => True
  | literal => more.startsLiteral = false
  | name => more.startsWord = false

def ending (before : Ending) : Segments → Ending
  | nil => before
  | literal _ rest => ending .literal rest
  | parameter _ rest => ending .name rest
  | optional _ rest => ending .free rest

theorem ending_append (before : Ending) (first second : Segments) :
    ending before (first.append second) = ending (ending before first) second := by
  induction first generalizing before with
  | nil => rfl
  | literal text rest ih => exact ih _
  | parameter name rest ih => exact ih _
  | optional children rest _ ih => exact ih _

theorem allows_other {more : Segments} (h : more.startsLiteral = false) (last : Ending) : last.Allows more := by
  cases last with
  | free => trivial
  | literal => exact h
  | name =>
      cases more with
      | literal text rest => cases h
      | _ => rfl

/-- Of a literal only the first character counts. -/
theorem allows_literal {last : Ending} {c : Char} {text : Text} {rest : Segments}
    (h : last.Allows (literal [c] nil)) : last.Allows (literal (c :: text) rest) := by
  cases last with
  | free => trivial
  | literal => cases h
  | name => exact h

theorem canonical_append {first second : Segments} : first.Canonical → second.Canonical →
    (ending .free first).Allows second → (first.append second).Canonical := by
  induction first with
  | nil => intro _ h _; exact h
  | literal text rest ih =>
      rintro ⟨isLiteral, next, canonical⟩ h allowed
      cases rest with
      | nil => exact ⟨isLiteral, allowed, h⟩
      | literal other more => cases next
      | parameter name more => exact ⟨isLiteral, rfl, ih canonical h allowed⟩
      | optional children more => exact ⟨isLiteral, rfl, ih canonical h allowed⟩
  | parameter name rest ih =>
      rintro ⟨isName, next, canonical⟩ h allowed
      cases rest with
      | nil => exact ⟨isName, allowed, h⟩
      | literal text more =>
          refine ⟨isName, ?_, ih canonical h allowed⟩
          cases text with
          | nil => rfl
          | cons c text => exact next
      | parameter other more => exact ⟨isName, rfl, ih canonical h allowed⟩
      | optional children more => exact ⟨isName, rfl, ih canonical h allowed⟩
  | optional children rest _ ih =>
      rintro ⟨inside, canonical⟩ h allowed
      exact ⟨inside, ih canonical h allowed⟩

/-! ## Names -/

theorem nameOf_eq_nil {text : Text} : nameOf text = [] ↔ ∀ c ∈ text.head?, isLetter c = false := by
  cases text with
  | nil => simp [nameOf]
  | cons c rest => by_cases letter : isLetter c = true <;> simp [nameOf, letter]

theorem isName_nameOf {text : Text} (h : nameOf text ≠ []) : IsName (nameOf text) := by
  cases text with
  | nil => exact absurd rfl h
  | cons c rest =>
      rw [nameOf] at h ⊢
      by_cases letter : isLetter c = true
      · rw [if_pos letter]
        exact ⟨c, _, rfl, letter, fun d member => List.mem_takeWhile_imp member⟩
      · rw [if_neg letter] at h
        exact absurd rfl h

theorem isWord_of_isLetter {c : Char} (h : isLetter c = true) : isWord c = true := by
  rw [isWord, h]
  rfl

theorem nameOf_eq_takeWhile {text : Text} (h : nameOf text ≠ []) : nameOf text = text.takeWhile isWord := by
  cases text with
  | nil => rfl
  | cons c rest =>
      rw [nameOf] at h ⊢
      by_cases letter : isLetter c = true
      · rw [if_pos letter, List.takeWhile_cons_of_pos (isWord_of_isLetter letter)]
      · rw [if_neg letter] at h
        exact absurd rfl h

theorem nameOf_append_drop {text : Text} (h : nameOf text ≠ []) :
    nameOf text ++ text.drop (nameOf text).length = text ∧
      ∀ c ∈ (text.drop (nameOf text).length).head?, isWord c = false := by
  have after : text.drop (text.takeWhile isWord).length = text.dropWhile isWord := by
    calc text.drop (text.takeWhile isWord).length
        = (text.takeWhile isWord ++ text.dropWhile isWord).drop (text.takeWhile isWord).length := by
          rw [List.takeWhile_append_dropWhile]
      _ = text.dropWhile isWord := List.drop_left ..
  rw [nameOf_eq_takeWhile h, after]
  refine ⟨List.takeWhile_append_dropWhile, fun c first => ?_⟩
  have stops := List.head?_dropWhile_not isWord text
  rw [Option.mem_def.mp first] at stops
  simpa using stops

theorem nameOf_append {name rest : Text} (h : IsName name) (next : ∀ c ∈ rest.head?, isWord c = false) :
    nameOf (name ++ rest) = name := by
  obtain ⟨c, more, rfl, letter, words⟩ := h
  have tail : rest.takeWhile isWord = [] := by
    cases rest with
    | nil => rfl
    | cons d rest => exact List.takeWhile_cons_of_neg (by simpa using next d rfl)
  rw [List.cons_append, nameOf, if_pos letter, List.takeWhile_append_of_pos words, tail, List.append_nil]

/-! ## One character -/

namespace Draft

/-- The four ways to read a character, `rest` being what follows it. -/
inductive Reads (r : Draft) (rest : Text) : Char → Draft → Nat → Prop
  | opening : Reads r rest '[' ⟨nil, r.whole :: r.outer, []⟩ 0
  | closing {parent : Segments} {outer : List Segments} : r.outer = parent :: outer →
      Reads r rest ']' ⟨parent.append (optional r.whole nil), outer, []⟩ 0
  | name : nameOf rest ≠ [] →
      Reads r rest ':' ⟨r.whole.append (parameter (nameOf rest) nil), r.outer, []⟩ (nameOf rest).length
  | text {c : Char} : c ≠ '[' → c ≠ ']' → (c = ':' → nameOf rest = []) →
      Reads r rest c { r with pending := r.pending ++ [c] } 0

section Step
variable {r next : Draft} {c : Char} {rest : Text} {taken : Nat}

theorem step_eq_some : r.step c rest = some (next, taken) ↔ Reads r rest c next taken := by
  constructor
  · intro h
    rw [step] at h
    by_cases opens : c = '['
    · subst opens
      cases h
      exact .opening
    · rw [if_neg opens] at h
      by_cases closes : c = ']'
      · subst closes
        rw [if_pos rfl] at h
        cases enclosing : r.outer with
        | nil => simp [enclosing] at h
        | cons parent outer =>
            simp only [enclosing, Option.some.injEq, Prod.mk.injEq] at h
            obtain ⟨rfl, rfl⟩ := h
            exact .closing enclosing
      · rw [if_neg closes] at h
        by_cases named : c = ':' ∧ nameOf rest ≠ []
        · rw [if_pos named] at h
          cases h
          obtain ⟨rfl, nonempty⟩ := named
          exact .name nonempty
        · rw [if_neg named] at h
          cases h
          exact .text opens closes fun colon => not_not.mp fun nonempty => named ⟨colon, nonempty⟩
  · intro h
    cases h with
    | opening => rfl
    | closing enclosing => simp [step, enclosing]
    | name nonempty => simp [step, nonempty]
    | text opens closes colon =>
        have unnamed : ¬ (c = ':' ∧ nameOf rest ≠ []) := fun named => named.2 (colon named.1)
        rw [step, if_neg opens, if_neg closes, if_neg unnamed]

theorem step_eq_none : r.step c rest = none ↔ c = ']' ∧ r.outer = [] := by
  constructor
  · intro h
    by_cases closes : c = ']'
    · subst closes
      cases enclosing : r.outer with
      | nil => exact ⟨rfl, rfl⟩
      | cons parent outer =>
          rw [step_eq_some.mpr (.closing enclosing)] at h
          cases h
    · have read : ∃ next taken, Reads r rest c next taken := by
        by_cases opens : c = '['
        · subst opens
          exact ⟨_, _, .opening⟩
        · by_cases named : c = ':' ∧ nameOf rest ≠ []
          · obtain ⟨rfl, nonempty⟩ := named
            exact ⟨_, _, .name nonempty⟩
          · exact ⟨_, _, .text opens closes fun colon => not_not.mp fun nonempty => named ⟨colon, nonempty⟩⟩
      obtain ⟨next, taken, read⟩ := read
      rw [step_eq_some.mpr read] at h
      cases h
  · rintro ⟨rfl, innermost⟩
    simp [step, innermost]

end Step

/-! ## What a draft holds -/

def writtenAround : List Segments → Text
  | [] => []
  | segments :: outer => writtenAround outer ++ segments.print ++ ['[']

def written (r : Draft) : Text := writtenAround r.outer ++ r.current.print ++ r.pending

theorem print_whole (r : Draft) : r.whole.print = r.current.print ++ r.pending := by
  by_cases empty : r.pending = []
  · rw [whole, if_pos empty, empty, List.append_nil]
  · rw [whole, if_neg empty, print_append, print, print, List.append_nil]

theorem Reads.written_eq {r next : Draft} {c : Char} {rest : Text} {taken : Nat} (h : Reads r rest c next taken) :
    next.written ++ rest.drop taken = r.written ++ c :: rest := by
  cases h with
  | opening => simp [written, writtenAround, print, print_whole]
  | closing enclosing => simp [written, writtenAround, print, print_append, print_whole, enclosing]
  | name nonempty =>
      have parts := (nameOf_append_drop nonempty).1
      simp [written, print, print_append, print_whole, parts]
  | text => simp [written]

/-- The draft is canonical, and stays so with any text in front of it: `rest` is what is still to be read. -/
structure Sound (r : Draft) (rest : Text) : Prop where
  current : r.current.Canonical
  outer : ∀ segments ∈ r.outer, segments.Canonical
  literal : r.pending ≠ [] → IsLiteral r.pending
  /-- Neither a literal nor a name was ended too early. -/
  next : ∀ c ∈ (r.pending ++ rest).head?, (ending .free r.current).Allows (.literal [c] .nil)
  colon : ∀ before, r.pending = before ++ [':'] → ∀ c ∈ rest.head?, isLetter c = false

theorem isLiteral_concat {text : Text} {c : Char} (h : text ≠ [] → IsLiteral text) (opens : c ≠ '[')
    (closes : c ≠ ']') (colon : ∀ before, text = before ++ [':'] → isLetter c = false) :
    IsLiteral (text ++ [c]) := by
  have plain : '[' ∉ text ∧ ']' ∉ text := by
    by_cases empty : text = []
    · simp [empty]
    · exact ⟨(h empty).2.1, (h empty).2.2.1⟩
  refine ⟨by simp, by simp [plain, Ne.symm opens], by simp [plain, Ne.symm closes], ?_⟩
  intro before d after split
  rcases List.eq_nil_or_concat after with rfl | ⟨after, last, rfl⟩
  · have parts : text ++ [c] = (before ++ [':']) ++ [d] := by simpa using split
    obtain ⟨front, same⟩ := List.append_inj' parts rfl
    obtain rfl : c = d := by simpa using same
    exact colon before front
  · have parts : text ++ [c] = (before ++ ':' :: d :: after) ++ [last] := by simpa using split
    have front := (List.append_inj' parts rfl).1
    exact (h (by simp [front])).2.2.2 before d after front

theorem Sound.whole {r : Draft} {rest : Text} (h : Sound r rest) : r.whole.Canonical := by
  rw [Draft.whole]
  cases held : r.pending with
  | nil => exact h.current
  | cons c text =>
      have next := h.next c (by simp [held])
      have literal : IsLiteral (c :: text) := held ▸ h.literal (by simp [held])
      exact canonical_append h.current ⟨literal, rfl, trivial⟩ (allows_literal next)

theorem Reads.sound {r next : Draft} {c : Char} {rest : Text} {taken : Nat} (read : Reads r rest c next taken)
    (h : Sound r (c :: rest)) : Sound next (rest.drop taken) := by
  have none_pending : ∀ before : Text, [] ≠ before ++ [':'] := by simp
  cases read with
  | opening =>
      refine ⟨trivial, ?_, by simp, fun _ _ => trivial, fun before split => absurd split (none_pending before)⟩
      intro segments member
      rcases List.mem_cons.mp member with rfl | member
      · exact h.whole
      · exact h.outer segments member
  | @closing parent outer enclosing =>
      have around := h.outer
      rw [enclosing, List.forall_mem_cons] at around
      refine ⟨canonical_append around.1 ⟨h.whole, trivial⟩ (allows_other rfl _), around.2, by simp,
        fun _ _ => ?_, fun before split => absurd split (none_pending before)⟩
      rw [ending_append]
      trivial
  | name nonempty =>
      refine ⟨canonical_append h.whole ⟨isName_nameOf nonempty, rfl, trivial⟩ (allows_other rfl _), h.outer,
        by simp, fun d first => ?_, fun before split => absurd split (none_pending before)⟩
      rw [ending_append]
      exact (nameOf_append_drop nonempty).2 d first
  | text opens closes colon =>
      refine ⟨h.current, h.outer, fun _ => ?_, fun d first => ?_, fun before split => ?_⟩
      · exact isLiteral_concat h.literal opens closes fun before split => h.colon before split c rfl
      · refine h.next d ?_
        simpa using first
      · obtain ⟨_, same⟩ := List.append_inj' split rfl
        obtain rfl : c = ':' := by simpa using same
        exact nameOf_eq_nil.mp (colon rfl)

theorem run_eq_ok {source : Text} {segments : Segments} : ∀ {r : Draft} {offset skip : Nat},
    Sound r (source.drop skip) → r.run offset skip source = .ok segments →
    segments.Canonical ∧ segments.print = r.written ++ source.drop skip := by
  induction source with
  | nil =>
      intro r offset skip sound h
      rw [run, finish] at h
      by_cases innermost : r.outer = []
      · rw [if_pos innermost] at h
        cases h
        exact ⟨sound.whole, by simp [print_whole, written, writtenAround, innermost]⟩
      · rw [if_neg innermost] at h
        cases h
  | cons c rest ih =>
      intro r offset skip sound h
      cases skip with
      | succ skip => exact ih sound h
      | zero =>
          rw [run] at h
          cases step : r.step c rest with
          | none =>
              rw [step] at h
              cases h
          | some following =>
              obtain ⟨next, taken⟩ := following
              rw [step] at h
              have read := step_eq_some.mp step
              have later := ih (read.sound sound) h
              rw [read.written_eq] at later
              exact later

end Draft
end RouteView.Segments
