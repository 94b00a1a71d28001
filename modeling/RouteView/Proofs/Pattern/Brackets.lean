import RouteView.Pattern.Basic
import RouteView.Proofs.Pattern.WrittenForm

/-!
# What makes a pattern malformed

Whether a source is read depends on its brackets alone.  A closing bracket behind balanced text closes nothing
(`imbalance_unmatched`), a source with such a bracket has a first one (`exists_unmatched`), and without one the groups
that stay open are the opening brackets in excess (`imbalance_unclosed`).  All three follow a source character by
character, with the number of open groups that `Passes` tells.
-/
set_option autoImplicit false
namespace RouteView.Segments

/-- Inside `depth` open groups, no prefix of the text closes more groups than are open. -/
def Nests (depth : Nat) (text : Text) : Prop :=
  ∀ front, front <+: text → front.count ']' ≤ depth + front.count '['

inductive Passes : Nat → Char → Nat → Prop
  | opening (depth : Nat) : Passes depth '[' (depth + 1)
  | closing (depth : Nat) : Passes (depth + 1) ']' depth
  | other (depth : Nat) {c : Char} : c ≠ '[' → c ≠ ']' → Passes depth c depth

section
variable {depth next offset : Nat} {c : Char} {rest : Text}

theorem passes_or_unmatched (depth : Nat) (c : Char) : (∃ next, Passes depth c next) ∨ depth = 0 ∧ c = ']' := by
  by_cases opens : c = '['
  · subst opens
    exact Or.inl ⟨_, .opening depth⟩
  by_cases closes : c = ']'
  · subst closes
    cases depth with
    | zero => exact Or.inr ⟨rfl, rfl⟩
    | succ depth => exact Or.inl ⟨_, .closing depth⟩
  · exact Or.inl ⟨_, .other depth opens closes⟩

theorem Passes.imbalance_eq (h : Passes depth c next) :
    imbalance depth offset (c :: rest) = imbalance next (offset + c.utf8Size) rest := by
  cases h with
  | opening => simp only [imbalance, if_true]
  | closing => simp [imbalance]
  | other _ opens closes => exact imbalance_other opens closes

theorem Passes.counts (h : Passes depth c next) (text : Text) :
    depth + (c :: text).count '[' + text.count ']' = next + (c :: text).count ']' + text.count '[' := by
  cases h with
  | opening =>
      rw [List.count_cons_self, List.count_cons_of_ne (by decide)]
      omega
  | closing =>
      rw [List.count_cons_self, List.count_cons_of_ne (by decide)]
      omega
  | other _ opens closes =>
      rw [List.count_cons_of_ne opens, List.count_cons_of_ne closes]
      omega

theorem nests_nil (depth : Nat) : Nests depth [] := by
  intro front inside
  rw [List.prefix_nil.mp inside]
  exact Nat.zero_le _

theorem Passes.nests_iff (h : Passes depth c next) : Nests depth (c :: rest) ↔ Nests next rest := by
  constructor
  · intro nests front inside
    have longer := nests (c :: front) ((List.prefix_cons_inj c).mpr inside)
    have counts := h.counts front
    omega
  · intro nests front inside
    rcases List.prefix_cons_iff.mp inside with rfl | ⟨shorter, rfl, within⟩
    · exact nests_nil depth [] List.nil_prefix
    · have fewer := nests shorter within
      have counts := h.counts shorter
      omega

theorem not_nests_closing : ¬ Nests 0 (']' :: rest) := by
  intro nests
  have alone := nests [']'] ((List.prefix_cons_inj ']').mpr List.nil_prefix)
  exact absurd alone (by decide)

end

/-! ## The first fault -/

/-- Behind text that closes just what is open, a closing bracket closes nothing. -/
theorem imbalance_unmatched {before : Text} (after : Text) : ∀ {depth offset : Nat}, Nests depth before →
    before.count ']' = depth + before.count '[' →
    imbalance depth offset (before ++ ']' :: after) = some (.unmatched (offset + Text.byteLength before)) := by
  induction before with
  | nil =>
      intro depth offset _ closed
      obtain rfl : depth = 0 := by simpa using closed.symm
      simp [imbalance, Text.byteLength]
  | cons c before ih =>
      intro depth offset nests closed
      rcases passes_or_unmatched depth c with ⟨next, passes⟩ | ⟨rfl, rfl⟩
      · have counts := passes.counts before
        have later : before.count ']' = next + before.count '[' := by omega
        rw [List.cons_append, passes.imbalance_eq, ih (passes.nests_iff.mp nests) later, Text.byteLength,
          Nat.add_assoc]
      · exact absurd nests not_nests_closing

theorem exists_unmatched {source : Text} : ∀ {depth : Nat}, ¬ Nests depth source →
    ∃ before after, source = before ++ ']' :: after ∧ Nests depth before ∧
      before.count ']' = depth + before.count '[' := by
  induction source with
  | nil => exact fun exceeds => absurd (nests_nil _) exceeds
  | cons c rest ih =>
      intro depth exceeds
      rcases passes_or_unmatched depth c with ⟨next, passes⟩ | ⟨rfl, rfl⟩
      · obtain ⟨before, after, rfl, nests, closed⟩ := ih (mt passes.nests_iff.mpr exceeds)
        have counts := passes.counts before
        exact ⟨c :: before, after, rfl, passes.nests_iff.mpr nests, by omega⟩
      · exact ⟨[], rest, rfl, nests_nil 0, rfl⟩

theorem imbalance_unclosed {source : Text} {k : Nat} (some_open : 0 < k) : ∀ {depth offset : Nat},
    Nests depth source → depth + source.count '[' = source.count ']' + k →
    imbalance depth offset source = some (.unclosed k) := by
  induction source with
  | nil =>
      intro depth offset _ excess
      obtain rfl : depth = k := by simpa using excess
      rw [imbalance, if_neg (Nat.ne_of_gt some_open)]
  | cons c rest ih =>
      intro depth offset nests excess
      rcases passes_or_unmatched depth c with ⟨next, passes⟩ | ⟨rfl, rfl⟩
      · have counts := passes.counts rest
        have later : next + rest.count '[' = rest.count ']' + k := by omega
        rw [passes.imbalance_eq, ih (passes.nests_iff.mp nests) later]
      · exact absurd nests not_nests_closing

theorem nests_zero {text : Text} :
    Nests 0 text ↔ ∀ front, front <+: text → front.count ']' ≤ front.count '[' := by
  simp only [Nests, Nat.zero_add]

end Segments

namespace Pattern
open Segments

theorem parse_of_imbalance {source : Text} {fault : PatternFault} (h : imbalance 0 0 source = some fault) :
    parse source = .error (.malformedPattern source fault.reason) := by
  have bracket : source ≠ ['*'] := by
    rintro rfl
    cases h
  rw [parse, parse?, if_neg bracket, parse_eq_error.mpr h]
  rfl

theorem fault_of_balanced {source : Text} {fault : Fault} (balanced : Balanced source)
    (refused : parse source = .error fault) : fault = .malformedPattern source PatternFault.tooDeep.reason := by
  obtain ⟨segments, read⟩ := exists_parse_eq_ok.mpr balanced
  rw [parse, parse?] at refused
  by_cases wildcard : source = ['*']
  · rw [if_pos wildcard] at refused
    cases refused
  · rw [if_neg wildcard, read] at refused
    by_cases deep : nestingLimit < segments.nesting
    · simp only [bind, Except.bind, if_pos deep] at refused
      cases refused
      rfl
    · simp only [bind, Except.bind, if_neg deep] at refused
      cases refused

/-- A source is refused at the first closing bracket that closes nothing, at the byte where it stands; else for its
groups that are never closed, with their number; and else only by the expression that it is compiled to. -/
theorem parse_rejects (source : Text) :
    ((∃ front, front <+: source ∧ front.count '[' < front.count ']') →
      ∃ before after, source = before ++ ']' :: after ∧ Balanced before ∧
        parse source = .error (.malformedPattern source
          ("unmatched ']' at byte " ++ Text.ofNat (Text.byteLength before)))) ∧
    ((∀ front, front <+: source → front.count ']' ≤ front.count '[') →
      (∀ k, 0 < k → source.count '[' = source.count ']' + k →
        parse source = .error (.malformedPattern source (Text.ofNat k ++ " unclosed '['"))) ∧
      (source.count '[' = source.count ']' → (∃ segments, Segments.parse source = .ok segments) ∧
        ∀ fault, parse source = .error fault →
          ∃ detail, fault = .malformedPattern source ("invalid regex: " ++ detail))) := by
  constructor
  · rintro ⟨front, inside, excess⟩
    have exceeds : ¬ Nests 0 source := fun nests => absurd (nests_zero.mp nests front inside) (Nat.not_le.mpr excess)
    obtain ⟨before, after, rfl, nests, closed⟩ := exists_unmatched exceeds
    refine ⟨before, after, rfl, ⟨nests_zero.mp nests, by simpa using closed⟩, ?_⟩
    have unmatched : imbalance 0 0 (before ++ ']' :: after) = some (.unmatched (0 + Text.byteLength before)) :=
      imbalance_unmatched after nests closed
    rw [Nat.zero_add] at unmatched
    exact parse_of_imbalance unmatched
  · intro nests
    refine ⟨fun k some_open excess => ?_, fun even => ?_⟩
    · have unclosed : imbalance 0 0 source = some (.unclosed k) :=
        imbalance_unclosed some_open (nests_zero.mpr nests) (by simpa using excess)
      exact parse_of_imbalance unclosed
    · have balanced : Balanced source := ⟨nests, even.symm⟩
      refine ⟨exists_parse_eq_ok.mpr balanced, fun fault refused => ⟨"nested too deeply", ?_⟩⟩
      rw [fault_of_balanced balanced refused]
      rfl

/-- Bytes are counted, and a bracket that is closed does not count as open. -/
example : parse "[é]:x]/[" = .error (.malformedPattern "[é]:x]/[" "unmatched ']' at byte 6") := rfl

end Pattern
end RouteView
