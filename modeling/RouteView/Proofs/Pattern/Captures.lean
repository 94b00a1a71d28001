import Mathlib.Data.List.Nodup
import RouteView.Pattern.Matching
import RouteView.Pattern.Regex

/-!
# Captures of a reading

A reading gives texts to names.  When no name is given two texts the captures are exactly the map of these
texts (`capturesFrom_of_agrees`), and otherwise there are none (`capturesFrom_of_not_agrees`).  The names
that a derivation captures are capture groups of its segments, in their order (`capturedNames_sublist`).
-/
set_option autoImplicit false
namespace RouteView.Segments

def Agrees (choices : List Choice) : Prop :=
  ∀ name first second, Choice.capture name first ∈ choices → Choice.capture name second ∈ choices →
    first = second

/-- The captures are the map from the captured names to their texts: one entry for each name, and nothing
else. -/
def Records (captures : Captures) (choices : List Choice) : Prop :=
  (captures.map Prod.fst).Nodup ∧
    ∀ name text, captures.lookup name = some text ↔ Choice.capture name text ∈ choices

def Given (known : Captures) (choices : List Choice) (name text : Text) : Prop :=
  known.lookup name = some text ∨ Choice.capture name text ∈ choices

section Given
variable {known : Captures} {choices : List Choice}

theorem given_nil {name text : Text} : Given [] choices name text ↔ Choice.capture name text ∈ choices := by
  simp [Given]

theorem given_take {name text : Text} :
    Given known (.take :: choices) name text ↔ Given known choices name text := by
  simp [Given]

theorem given_skip {name text : Text} :
    Given known (.skip :: choices) name text ↔ Given known choices name text := by
  simp [Given]

theorem given_new {fresh value name text : Text} (unknown : known.lookup fresh = none) :
    Given known (.capture fresh value :: choices) name text ↔
      Given (known ++ [(fresh, value)]) choices name text := by
  simp only [Given, List.lookup_append, List.mem_cons, Choice.capture.injEq, List.lookup_singleton]
  by_cases same : name = fresh
  · subst same
    simp [unknown, eq_comm]
  · simp [same]

theorem given_again {old value name text : Text} (already : known.lookup old = some value) :
    Given known (.capture old value :: choices) name text ↔ Given known choices name text := by
  simp only [Given, List.mem_cons, Choice.capture.injEq]
  constructor
  · rintro (h | ⟨rfl, rfl⟩ | h)
    · exact Or.inl h
    · exact Or.inl already
    · exact Or.inr h
  · rintro (h | h)
    · exact Or.inl h
    · exact Or.inr (Or.inr h)

end Given

section Step
variable {known : Captures} {choices : List Choice} {name value : Text}

theorem capturesFrom_new (unknown : known.lookup name = none) :
    capturesFrom known (.capture name value :: choices) = capturesFrom (known ++ [(name, value)]) choices := by
  simp only [capturesFrom, unknown]

theorem capturesFrom_again (already : known.lookup name = some value) :
    capturesFrom known (.capture name value :: choices) = capturesFrom known choices := by
  simp only [capturesFrom, already, if_true]

theorem capturesFrom_other {earlier : Text} (already : known.lookup name = some earlier)
    (differs : earlier ≠ value) : capturesFrom known (.capture name value :: choices) = none := by
  simp only [capturesFrom, already, if_neg differs]

/-- A captured text is refused, or it is known from then on. -/
theorem capturesFrom_cases (known : Captures) (name value : Text) :
    (∀ choices, capturesFrom known (.capture name value :: choices) = none ∧
      ∃ earlier, Given known (.capture name value :: choices) name earlier ∧ earlier ≠ value) ∨
    ∃ next : Captures, ((known.map Prod.fst).Nodup → (next.map Prod.fst).Nodup) ∧ ∀ choices,
      capturesFrom known (.capture name value :: choices) = capturesFrom next choices ∧
      ∀ other text, Given known (.capture name value :: choices) other text ↔ Given next choices other text := by
  cases found : known.lookup name with
  | none =>
      refine Or.inr ⟨known ++ [(name, value)], fun distinct => ?_, fun choices =>
        ⟨capturesFrom_new found, fun _ _ => given_new found⟩⟩
      rw [List.map_append, List.map_singleton, ← List.concat_eq_append]
      refine distinct.concat fun member => ?_
      obtain ⟨entry, hm, he⟩ := List.mem_map.mp member
      have differs := List.lookup_eq_none_iff.mp found entry hm
      simp [he] at differs
  | some earlier =>
      by_cases same : earlier = value
      · subst same
        exact Or.inr ⟨known, id, fun choices => ⟨capturesFrom_again found, fun _ _ => given_again found⟩⟩
      · exact Or.inl fun choices => ⟨capturesFrom_other found same, earlier, Or.inl found, same⟩

end Step

theorem lookup_capturesFrom (choices : List Choice) : ∀ {known captures : Captures},
    capturesFrom known choices = some captures →
    ∀ name text, captures.lookup name = some text ↔ Given known choices name text := by
  induction choices with
  | nil =>
      intro known captures h name text
      simp only [capturesFrom, Option.some.injEq] at h
      simp [Given, h]
  | cons choice choices ih =>
      intro known captures h name text
      cases choice with
      | take => rw [given_take]; exact ih h name text
      | skip => rw [given_skip]; exact ih h name text
      | capture next value =>
          rcases capturesFrom_cases known next value with refused | ⟨grown, _, step⟩
          · rw [(refused choices).1] at h
            cases h
          · rw [(step choices).1] at h
            rw [(step choices).2]
            exact ih h name text

theorem capturesFrom_isSome (choices : List Choice) : ∀ {known : Captures},
    (∀ name first second, Given known choices name first → Given known choices name second → first = second) →
    ∃ captures, capturesFrom known choices = some captures := by
  induction choices with
  | nil => intro known _; exact ⟨known, rfl⟩
  | cons choice choices ih =>
      intro known h
      cases choice with
      | take => simp only [given_take] at h; exact ih h
      | skip => simp only [given_skip] at h; exact ih h
      | capture next value =>
          rcases capturesFrom_cases known next value with refused | ⟨grown, _, step⟩
          · obtain ⟨earlier, before, differs⟩ := (refused choices).2
            exact absurd (h next earlier value before (Or.inr (List.mem_cons_self ..))) differs
          · simp only [(step choices).2] at h
            rw [(step choices).1]
            exact ih h

theorem nodup_capturesFrom (choices : List Choice) : ∀ {known captures : Captures},
    (known.map Prod.fst).Nodup → capturesFrom known choices = some captures →
    (captures.map Prod.fst).Nodup := by
  induction choices with
  | nil =>
      intro known captures distinct h
      simp only [capturesFrom, Option.some.injEq] at h
      exact h ▸ distinct
  | cons choice choices ih =>
      intro known captures distinct h
      cases choice with
      | take => exact ih distinct h
      | skip => exact ih distinct h
      | capture next value =>
          rcases capturesFrom_cases known next value with refused | ⟨grown, kept, step⟩
          · rw [(refused choices).1] at h
            cases h
          · rw [(step choices).1] at h
            exact ih (kept distinct) h

theorem capturesFrom_of_agrees {choices : List Choice} (h : Agrees choices) :
    ∃ captures, capturesFrom [] choices = some captures ∧ Records captures choices := by
  have single : ∀ name first second, Given [] choices name first → Given [] choices name second →
      first = second :=
    fun name first second hf hs => h name first second (given_nil.mp hf) (given_nil.mp hs)
  have distinct : (([] : Captures).map Prod.fst).Nodup := List.nodup_nil
  obtain ⟨captures, hc⟩ := capturesFrom_isSome choices single
  refine ⟨captures, hc, nodup_capturesFrom choices distinct hc, fun name text => ?_⟩
  exact (lookup_capturesFrom choices hc name text).trans given_nil

theorem agrees_of_capturesFrom {choices : List Choice} {captures : Captures}
    (h : capturesFrom [] choices = some captures) : Agrees choices := by
  intro name first second hf hs
  have lookup := lookup_capturesFrom choices h name
  exact Option.some.inj (((lookup first).mpr (Or.inr hf)).symm.trans ((lookup second).mpr (Or.inr hs)))

theorem capturesFrom_of_not_agrees {choices : List Choice} (h : ¬ Agrees choices) :
    capturesFrom [] choices = none := by
  cases hc : capturesFrom [] choices with
  | none => rfl
  | some captures => exact absurd (agrees_of_capturesFrom hc) h

/-! ## Captured names -/

def capturedNames : List Choice → List Text
  | [] => []
  | .capture name _ :: rest => name :: capturedNames rest
  | .take :: rest | .skip :: rest => capturedNames rest

theorem capturedNames_append (first second : List Choice) :
    capturedNames (first ++ second) = capturedNames first ++ capturedNames second := by
  induction first with
  | nil => rfl
  | cons choice first ih => cases choice <;> simp [capturedNames, ih]

theorem mem_capturedNames {name : Text} {choices : List Choice} :
    name ∈ capturedNames choices ↔ ∃ text, Choice.capture name text ∈ choices := by
  induction choices with
  | nil => simp [capturedNames]
  | cons choice choices ih => cases choice <;> simp [capturedNames, ih, exists_or]

theorem capturedNames_sublist {segments : Segments} {path : Text} {choices : List Choice}
    (h : Derives segments path choices) : (capturedNames choices).Sublist segments.groupNames := by
  induction h with
  | nil => exact List.Sublist.slnil
  | literal _ ih => exact ih
  | parameter _ _ ih => exact ih.cons_cons _
  | take _ _ ihc ihr =>
      rw [List.cons_append, capturedNames, capturedNames_append]
      exact ihc.append ihr
  | skip _ ih => exact ih.trans (List.sublist_append_right ..)

theorem agrees_of_nodup {choices : List Choice} (h : (capturedNames choices).Nodup) : Agrees choices := by
  induction choices with
  | nil => intro name first second hf; simp at hf
  | cons choice choices ih =>
      intro name first second hf hs
      cases choice with
      | take => exact ih h name first second (by simpa using hf) (by simpa using hs)
      | skip => exact ih h name first second (by simpa using hf) (by simpa using hs)
      | capture next value =>
          rw [capturedNames, List.nodup_cons] at h
          simp only [List.mem_cons, Choice.capture.injEq] at hf hs
          rcases hf with ⟨rfl, rfl⟩ | hf
          · rcases hs with ⟨_, rfl⟩ | hs
            · rfl
            · exact absurd (mem_capturedNames.mpr ⟨second, hs⟩) h.1
          · rcases hs with ⟨rfl, _⟩ | hs
            · exact absurd (mem_capturedNames.mpr ⟨first, hf⟩) h.1
            · exact ih h.2 name first second hf hs

end RouteView.Segments
