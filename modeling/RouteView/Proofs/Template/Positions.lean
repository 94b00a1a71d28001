import Mathlib.Data.List.Forall2
import RouteView.Proofs.Text.Splitting
import RouteView.Template.Lookup

/-!
# Positions in data

A position is a list of steps, each a key of an object or an index of an array.  Which of the two a part of a dotted
path is depends on the value that it is applied to, so the parts are only spellings of steps (`Step.Spelled`).  A part
leads on exactly when it spells a step that the value has (`stepInto_eq_some`), and `Stuck` names what keeps it from
doing so (`stepInto_eq_none`); both are carried along a path by induction on its parts.
-/
set_option autoImplicit false
namespace RouteView

/-! ## Numerals -/

namespace Value

/-- Digits, with any zeros in front and perhaps behind a plus sign, that denote the number. -/
def Denotes (n : Nat) (text : Text) : Prop :=
  ∃ digits, (text = digits ∨ text = '+' :: digits) ∧ digits ≠ [] ∧ (∀ c ∈ digits, c.isDigit = true) ∧
    Nat.ofDigitChars 10 digits 0 = n

theorem denotes_ofNat (n : Nat) : Denotes n (Text.ofNat n) := by
  have digit : ∀ c ∈ Text.ofNat n, c.isDigit = true :=
    fun _ member => Nat.isDigit_of_mem_toDigits (by decide) (by decide) member
  exact ⟨Text.ofNat n, Or.inl rfl, Nat.toDigits_ne_nil, digit, Nat.ofDigitChars_ten_toDigits⟩

def unsign : Text → Text
  | '+' :: digits => digits
  | digits => digits

theorem unsign_cases (text : Text) : text = unsign text ∨ text = '+' :: unsign text := by
  unfold unsign
  split
  · exact Or.inr rfl
  · exact Or.inl rfl

theorem unsign_digits {digits : Text} (digit : ∀ c ∈ digits, c.isDigit = true) : unsign digits = digits := by
  unfold unsign
  split
  · exact absurd (digit '+' List.mem_cons_self) (by decide)
  · rfl

theorem denotes_iff {n : Nat} {text : Text} : Denotes n text ↔
    unsign text ≠ [] ∧ (∀ c ∈ unsign text, c.isDigit = true) ∧ Nat.ofDigitChars 10 (unsign text) 0 = n := by
  constructor
  · rintro ⟨digits, rfl | rfl, filled, digit, value⟩
    · rw [unsign_digits digit]
      exact ⟨filled, digit, value⟩
    · exact ⟨filled, digit, value⟩
  · rintro ⟨filled, digit, value⟩
    exact ⟨unsign text, unsign_cases text, filled, digit, value⟩

theorem Denotes.unique {n m : Nat} {text : Text} (h : Denotes n text) (other : Denotes m text) : n = m :=
  (denotes_iff.mp h).2.2.symm.trans (denotes_iff.mp other).2.2

theorem unsigned?_eq_some {bound n : Nat} {text : Text} : unsigned? bound text = some n ↔ Denotes n text ∧ n < bound := by
  have read : unsigned? bound text = if unsign text = [] ∨ !(unsign text).all isDigit then none
      else if digitsValue (unsign text) < bound then some (digitsValue (unsign text)) else none := rfl
  have value : digitsValue (unsign text) = Nat.ofDigitChars 10 (unsign text) 0 := Nat.ofDigitChars_eq_foldl.symm
  have digits : (unsign text).all isDigit = true ↔ ∀ c ∈ unsign text, c.isDigit = true := List.all_eq_true
  rw [read, denotes_iff, ← digits, ← value]
  by_cases numeral : unsign text = [] ∨ (!(unsign text).all isDigit) = true
  · rw [if_pos numeral]
    constructor
    · nofun
    · rintro ⟨⟨filled, digit, _⟩, _⟩
      simp [filled, digit] at numeral
  · rw [if_neg numeral]
    rw [not_or, Bool.not_eq_true', Bool.not_eq_false] at numeral
    constructor
    · intro found
      split at found
      · next small =>
          cases found
          exact ⟨⟨numeral.1, numeral.2, rfl⟩, small⟩
      · cases found
    · rintro ⟨⟨_, _, rfl⟩, small⟩
      rw [if_pos small]

end Value

namespace Template

/-! ## Single steps -/

inductive Step
  | key (name : Text)
  | index (i : UInt64)

namespace Step

def written : Step → Text
  | key name => name
  | index i => Text.ofNat i.toNat

inductive Spelled : Text → Step → Prop
  | key (name : Text) : Spelled name (.key name)
  | index {part : Text} {i : UInt64} : Value.Denotes i.toNat part → Spelled part (.index i)

inductive Leads : Value → Step → Value → Prop
  | key {fields : Data} {name : Text} {inner : Value} : Dictionary.get? name fields = some inner →
      Leads (.object fields) (.key name) inner
  | index {items : List Value} {i : UInt64} {inner : Value} : items[i.toNat]? = some inner →
      Leads (.array items) (.index i) inner

end Step

inductive Stuck : Value → Text → Prop
  | absent {fields : Data} {part : Text} : part ∉ Dictionary.keys fields → Stuck (.object fields) part
  | outside {items : List Value} {part : Text} {n : Nat} : Value.Denotes n part → items.length ≤ n →
      Stuck (.array items) part
  | beyond {items : List Value} {part : Text} {n : Nat} : Value.Denotes n part → UInt64.size ≤ n → Stuck (.array items) part
  | unnumbered {items : List Value} {part : Text} : (∀ n, ¬ Value.Denotes n part) → Stuck (.array items) part
  | below {value : Value} {part : Text} : (∀ fields, value ≠ .object fields) → (∀ items, value ≠ .array items) →
      Stuck value part

theorem indexOf?_eq_some {part : Text} {n : Nat} : indexOf? part = some n ↔ Value.Denotes n part ∧ n < UInt64.size :=
  Value.unsigned?_eq_some

theorem stepInto_eq_some {value inner : Value} {part : Text} :
    stepInto part value = some inner ↔ ∃ step, Step.Spelled part step ∧ Step.Leads value step inner := by
  constructor
  · intro found
    cases value with
    | object fields => exact ⟨.key part, .key part, .key found⟩
    | array items =>
        obtain ⟨n, number, item⟩ := Option.bind_eq_some_iff.mp found
        obtain ⟨denotes, small⟩ := indexOf?_eq_some.mp number
        have same : (UInt64.ofNat n).toNat = n := UInt64.toNat_ofNat_of_lt small
        rw [← same] at denotes item
        exact ⟨.index (.ofNat n), .index denotes, .index item⟩
    | _ => cases found
  · rintro ⟨step, spelled, leads⟩
    cases leads with
    | key found =>
        cases spelled
        exact found
    | @index items i inner item =>
        cases spelled with
        | index denotes =>
            have number : indexOf? part = some i.toNat := indexOf?_eq_some.mpr ⟨denotes, i.toNat_lt⟩
            rw [stepInto, number]
            exact item

theorem stepInto_eq_none {value : Value} {part : Text} : stepInto part value = none ↔ Stuck value part := by
  constructor
  · intro nothing
    cases value with
    | object fields =>
        refine .absent fun member => ?_
        obtain ⟨inner, found⟩ := Dictionary.mem_keys_iff.mp member
        rw [stepInto, found] at nothing
        cases nothing
    | array items =>
        by_cases number : ∃ n, Value.Denotes n part
        · obtain ⟨n, denotes⟩ := number
          by_cases small : n < UInt64.size
          · rw [stepInto, indexOf?_eq_some.mpr ⟨denotes, small⟩] at nothing
            exact .outside denotes (List.getElem?_eq_none_iff.mp nothing)
          · exact .beyond denotes (Nat.le_of_not_lt small)
        · exact .unnumbered fun n denotes => number ⟨n, denotes⟩
    | _ => exact .below nofun nofun
  · intro stuck
    rw [Option.eq_none_iff_forall_ne_some]
    intro inner found
    obtain ⟨step, spelled, leads⟩ := stepInto_eq_some.mp found
    cases stuck with
    | absent absent =>
        cases leads with
        | key inside =>
            cases spelled
            exact absent (Dictionary.mem_keys_of_mem (Dictionary.mem_of_get? inside))
    | outside denotes short =>
        cases leads with
        | index item =>
            cases spelled with
            | index found =>
                obtain ⟨inside, _⟩ := List.getElem?_eq_some_iff.mp item
                have same := found.unique denotes
                omega
    | @beyond items part n denotes large =>
        cases leads with
        | @index items i inner item =>
            cases spelled with
            | index found =>
                have same : i.toNat = n := found.unique denotes
                have small : i.toNat < UInt64.size := i.toNat_lt_size
                omega
    | unnumbered none =>
        cases leads with
        | index item =>
            cases spelled with
            | index denotes => exact none _ denotes
    | below object array =>
        cases leads with
        | key inside => exact object _ rfl
        | index item => exact array _ rfl

/-! ## Whole paths -/

/-- The steps, one after the other, are the position at which `last` stands in a value. -/
inductive At : Value → List Step → Value → Prop
  | here {value : Value} : At value [] value
  | step {value inner last : Value} {step : Step} {rest : List Step} : Step.Leads value step inner →
      At inner rest last → At value (step :: rest) last

theorem descend_eq_some {parts : List Text} : ∀ {value last : Value},
    descend value parts = some last ↔ ∃ steps, List.Forall₂ Step.Spelled parts steps ∧ At value steps last := by
  induction parts with
  | nil =>
      intro value last
      constructor
      · intro found
        cases found
        exact ⟨[], .nil, .here⟩
      · rintro ⟨steps, spelled, stands⟩
        cases spelled
        cases stands
        rfl
  | cons part rest ih =>
      intro value last
      rw [descend, Option.bind_eq_some_iff]
      constructor
      · rintro ⟨inner, first, found⟩
        obtain ⟨step, spells, leads⟩ := stepInto_eq_some.mp first
        obtain ⟨steps, spelled, stands⟩ := ih.mp found
        exact ⟨step :: steps, .cons spells spelled, .step leads stands⟩
      · rintro ⟨steps, spelled, stands⟩
        cases spelled with
        | cons spells spelled =>
            cases stands with
            | step leads stands => exact ⟨_, stepInto_eq_some.mpr ⟨_, spells, leads⟩, ih.mpr ⟨_, spelled, stands⟩⟩

theorem descend_eq_none {parts : List Text} : ∀ {value : Value}, descend value parts = none ↔
    ∃ front part rest steps last, parts = front ++ part :: rest ∧ List.Forall₂ Step.Spelled front steps ∧
      At value steps last ∧ Stuck last part := by
  induction parts with
  | nil => simp [descend]
  | cons part rest ih =>
      intro value
      rw [descend, Option.bind_eq_none_iff]
      constructor
      · intro nothing
        cases first : stepInto part value with
        | none => exact ⟨[], part, rest, [], value, rfl, .nil, .here, stepInto_eq_none.mp first⟩
        | some inner =>
            obtain ⟨step, spells, leads⟩ := stepInto_eq_some.mp first
            obtain ⟨front, next, behind, steps, last, rfl, spelled, stands, stuck⟩ := ih.mp (nothing inner first)
            exact ⟨part :: front, next, behind, step :: steps, last, rfl, .cons spells spelled, .step leads stands, stuck⟩
      · rintro ⟨front, next, behind, steps, last, split, spelled, stands, stuck⟩ inner first
        cases spelled with
        | nil =>
            cases stands
            obtain ⟨rfl, rfl⟩ := List.cons.inj split
            rw [stepInto_eq_none.mpr stuck] at first
            cases first
        | cons spells spelled =>
            cases stands with
            | step leads stands =>
                obtain ⟨rfl, rfl⟩ := List.cons.inj split
                have entered := stepInto_eq_some.mpr ⟨_, spells, leads⟩
                obtain rfl : _ = inner := Option.some.inj (entered.symm.trans first)
                exact ih.mpr ⟨_, next, behind, _, last, rfl, spelled, stands, stuck⟩

def Step.Undotted : Step → Prop
  | key name => '.' ∉ name
  | index _ => True

theorem Step.spelled_written (step : Step) : Spelled step.written step := by
  cases step with
  | key name => exact .key name
  | index i => exact .index (Value.denotes_ofNat i.toNat)

theorem Step.Undotted.not_mem_written {step : Step} (h : step.Undotted) : '.' ∉ step.written := by
  cases step with
  | key name => exact h
  | index i =>
      intro dot
      have digit : '.'.isDigit = true := Nat.isDigit_of_mem_toDigits (by decide) (by decide) dot
      exact absurd digit (by decide)

/-- Looking up the written steps of a position gives the value that stands there.  Whatever a path leads to stands at
a position whose steps are spelled by its parts, and a path leads to nothing exactly when one of its parts leads
nowhere from the value that the parts before it lead to. -/
theorem lookup_positions (data : Data) :
    (∀ first rest v, At (.object data) (.key first :: rest) v → (∀ step ∈ Step.key first :: rest, step.Undotted) →
      lookup data (Text.join ['.'] ((Step.key first :: rest).map Step.written)) = some v) ∧
    (∀ path v, lookup data path = some v ↔
      ∃ steps, List.Forall₂ Step.Spelled (Text.splitOn '.' path) steps ∧ At (.object data) steps v) ∧
    ∀ path, lookup data path = none ↔
      ∃ front part rest steps last, Text.splitOn '.' path = front ++ part :: rest ∧
        List.Forall₂ Step.Spelled front steps ∧ At (.object data) steps last ∧ Stuck last part := by
  refine ⟨fun first rest v stands undotted => ?_, fun path v => descend_eq_some, fun path => descend_eq_none⟩
  have pieces : Text.splitOn '.' (Text.join ['.'] ((Step.key first :: rest).map Step.written)) =
      (Step.key first :: rest).map Step.written := by
    refine Text.splitOn_pieces (by simp) fun piece member => ?_
    obtain ⟨step, inside, rfl⟩ := List.mem_map.mp member
    exact (undotted step inside).not_mem_written
  have spelled : List.Forall₂ Step.Spelled ((Step.key first :: rest).map Step.written) (Step.key first :: rest) := by
    rw [List.forall₂_map_left_iff, List.forall₂_same]
    exact fun step _ => step.spelled_written
  rw [lookup, pieces]
  exact descend_eq_some.mpr ⟨_, spelled, stands⟩

/-- The same part is an index of an array and a key of an object, and an empty part is a key. -/
example : lookup [("", .array [.object [("+00", .text "x")]])] ".+00.+00" = some (.text "x") := rfl

end Template
end RouteView
