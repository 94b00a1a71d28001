import RouteView.Proofs.Text.Markup
import RouteView.Template.Evaluation

/-!
# Defaults

A filter `default` supplies a text where there is none.  Once there is a text no other filter removes it
(`FilterKind.apply_ne_nil`), so of a value that is there the first default that supplies a text is the only one that
counts.  Whether the value is missing is settled before the first filter, though: of a missing value every default
replaces what an earlier one supplied (`second_default_replaces`), and the last one is the only one that counts.
`evaluate_default` puts the two together.
-/
set_option autoImplicit false
namespace RouteView

/-! ## Texts that are not empty -/

namespace Text

theorem flatMap_ne_nil {f : Char → Text} (images : ∀ c, f c ≠ []) {text : Text} (h : text ≠ []) :
    text.flatMap f ≠ [] := by
  obtain ⟨c, rest, rfl⟩ := List.exists_cons_of_ne_nil h
  rw [List.flatMap_cons]
  exact List.append_ne_nil_of_left_ne_nil (images c) _

theorem entity_ne_nil (c : Char) : entity c ≠ [] := by
  unfold entity
  repeat' split
  all_goals nofun

theorem escape_ne_nil {text : Text} (h : text ≠ []) : escape text ≠ [] := by
  rw [escape_eq_flatMap]
  exact flatMap_ne_nil entity_ne_nil h

theorem mapCase_ne_nil (runs : List CaseRun) {expansions : List (Nat × List Nat)}
    (filled : ∀ entry ∈ expansions, entry.2 ≠ []) (c : Char) : mapCase runs expansions c ≠ [] := by
  rw [mapCase]
  cases found : expansions.lookup c.toNat with
  | none => nofun
  | some image =>
      obtain ⟨before, after, split, _⟩ := List.lookup_eq_some_iff.mp found
      have entry : (c.toNat, image) ∈ expansions := by simp [split]
      exact fun empty => filled _ entry (List.map_eq_nil_iff.mp empty)

theorem toUpper_ne_nil {text : Text} (h : text ≠ []) : toUpper text ≠ [] :=
  flatMap_ne_nil (mapCase_ne_nil upperRuns (by decide +kernel)) h

theorem toLower_ne_nil {text : Text} (h : text ≠ []) : toLower text ≠ [] := by
  obtain ⟨c, rest, rfl⟩ := List.exists_cons_of_ne_nil h
  rw [toLower, lowerAfter]
  refine List.append_ne_nil_of_left_ne_nil ?_ _
  split
  · split <;> exact List.cons_ne_nil _ _
  · exact mapCase_ne_nil lowerRuns (by decide +kernel) c

end Text

namespace Template

def Filter.fallback (argument : Option Text) : Filter := ⟨FilterKind.fallback.name, argument⟩

def Filter.IsFallback (filter : Filter) : Prop := filter.name = FilterKind.fallback.name

instance : DecidablePred Filter.IsFallback := fun filter =>
  inferInstanceAs (Decidable (filter.name = FilterKind.fallback.name))

def Missing (data : Data) (path : Text) : Prop := ∀ v, lookup data path = some v → v = .null

theorem isMissing_iff {data : Data} {path : Text} :
    ((lookup data path).map Value.isNull).getD true = true ↔ Missing data path := by
  unfold Missing
  cases lookup data path with
  | none => simp
  | some v => cases v <;> simp [Value.isNull]

/-! ## Single filters -/

section Step
variable {argument : Option Text} {r : Rendered} {kind : FilterKind}

theorem FilterKind.apply_ne_nil (shown : r.text ≠ []) : (kind.apply false argument r).text ≠ [] := by
  cases kind with
  | safe => exact shown
  | escape =>
      simp only [apply]
      split
      · exact shown
      · exact Text.escape_ne_nil shown
  | upper => exact Text.toUpper_ne_nil shown
  | lower => exact Text.toLower_ne_nil shown
  | fallback => simp [apply, shown]

theorem FilterKind.apply_nil {missing : Bool} (empty : r.text = []) (other : kind ≠ .fallback) :
    (kind.apply missing argument r).text = [] := by
  cases kind with
  | fallback => exact absurd rfl other
  | escape => simp [apply, empty, Text.escape_nil]
  | upper => simp [apply, empty, Text.toUpper]
  | lower => simp [apply, empty, Text.toLower, Text.lowerAfter]
  | safe => exact empty

theorem FilterKind.fallback_of_shown (shown : r.text ≠ []) : fallback.apply false argument r = r := by
  simp [apply, shown]

end Step

/-! ## Chains -/

theorem applyFilters_append (missing : Bool) (after : List Filter) (before : List Filter) : ∀ r : Rendered,
    applyFilters missing r (before ++ after) =
      (applyFilters missing r before).bind fun r => applyFilters missing r after := by
  induction before with
  | nil => intro r; rfl
  | cons filter rest ih =>
      intro r
      rw [List.cons_append, applyFilters, applyFilters]
      cases FilterKind.ofName? filter.name with
      | none => rfl
      | some kind => exact ih _

/-- Behind a text the defaults of a value that is there may be left out. -/
theorem applyFilters_without_fallbacks (filters : List Filter) : ∀ {r : Rendered}, r.text ≠ [] →
    applyFilters false r filters = applyFilters false r (filters.filter fun filter => ¬ filter.IsFallback) := by
  induction filters with
  | nil => intro r _; rfl
  | cons filter rest ih =>
      intro r shown
      by_cases plain : filter.IsFallback
      · rw [List.filter_cons, if_neg (by simpa using plain), applyFilters, FilterKind.ofName?_eq_some.mpr plain]
        simp only [FilterKind.fallback_of_shown shown]
        exact ih shown
      · rw [List.filter_cons, if_pos (by simpa using plain), applyFilters, applyFilters]
        cases FilterKind.ofName? filter.name with
        | none => rfl
        | some kind => exact ih (kind.apply_ne_nil shown)

theorem applyFilters_nil {missing : Bool} {filters : List Filter} {r last : Rendered}
    (plain : ∀ filter ∈ filters, ¬ filter.IsFallback) (empty : r.text = [])
    (run : applyFilters missing r filters = .ok last) : last.text = [] := by
  refine applyFilters_keeps (P := fun r => r.text = [])
    (fun filter member kind named before nothing => kind.apply_nil nothing ?_) run empty
  rintro rfl
  exact plain filter member named

section Evaluate
variable {data : Data} {safeKeys : List Text} {path : Text} {before : List Filter} {r : Rendered}

theorem evaluate_append (run : Expression.evaluate ⟨path, before⟩ data safeKeys = .ok r) (after : List Filter) :
    Expression.evaluate ⟨path, before ++ after⟩ data safeKeys =
      applyFilters (((lookup data path).map Value.isNull).getD true) r after := by
  rw [Expression.evaluate] at run
  rw [Expression.evaluate, applyFilters_append, run]
  rfl

theorem exists_fallback_of_missing (missing : Missing data path)
    (run : Expression.evaluate ⟨path, before⟩ data safeKeys = .ok r) (shown : r.text ≠ []) :
    ∃ filter ∈ before, filter.IsFallback := by
  apply Decidable.byContradiction
  intro none
  have start : ((lookup data path).map Value.display).getD [] = [] := by
    cases found : lookup data path with
    | none => rfl
    | some v =>
        obtain rfl := missing v found
        rfl
  have plain : ∀ filter ∈ before, ¬ filter.IsFallback := fun filter member named => none ⟨filter, member, named⟩
  exact shown (applyFilters_nil plain start run)

/-- Let the filters so far show a text.  When the value is there, a default changes nothing here, nor does any later
one.  When it is missing, the text came from an earlier default, and a default here replaces it and everything that
was done to it. -/
theorem evaluate_default (run : Expression.evaluate ⟨path, before⟩ data safeKeys = .ok r) (shown : r.text ≠ []) :
    (¬ Missing data path →
      (∀ argument, Expression.evaluate ⟨path, before ++ [.fallback argument]⟩ data safeKeys = .ok r) ∧
      ∀ after, Expression.evaluate ⟨path, before ++ after⟩ data safeKeys =
        Expression.evaluate ⟨path, before ++ after.filter fun filter => ¬ filter.IsFallback⟩ data safeKeys) ∧
    (Missing data path → (∃ filter ∈ before, filter.IsFallback) ∧
      ∀ argument after, Expression.evaluate ⟨path, before ++ .fallback argument :: after⟩ data safeKeys =
        applyFilters true ⟨argument.getD [], false⟩ after) := by
  refine ⟨fun present => ?_, fun missing => ⟨exists_fallback_of_missing missing run shown, fun argument after => ?_⟩⟩
  · have there : ((lookup data path).map Value.isNull).getD true = false :=
      Bool.eq_false_iff.mpr fun missing => present (isMissing_iff.mp missing)
    have dropped : ∀ after, Expression.evaluate ⟨path, before ++ after⟩ data safeKeys =
        Expression.evaluate ⟨path, before ++ after.filter fun filter => ¬ filter.IsFallback⟩ data safeKeys := by
      intro after
      rw [evaluate_append run, evaluate_append run, there]
      exact applyFilters_without_fallbacks after shown
    refine ⟨fun argument => ?_, dropped⟩
    rw [dropped]
    exact evaluate_append run []
  · rw [evaluate_append run, isMissing_iff.mpr missing]
    rfl

end Evaluate

/-- An empty text is there, so only the first default counts, whatever stands between it and the others. -/
theorem evaluate_default_empty :
    let before : List Filter := [.fallback (some "a"), ⟨"upper", none⟩]
    let data : Data := [("x", .text [])]
    Expression.evaluate ⟨"x", before⟩ data [] = .ok ⟨"A", false⟩ ∧ ¬ Missing data "x" ∧
      Expression.evaluate ⟨"x", before ++ [.fallback (some "b"), ⟨"safe", none⟩, .fallback none]⟩ data [] =
        .ok ⟨"A", true⟩ := by
  intro before data
  have run : Expression.evaluate ⟨"x", before⟩ data [] = .ok ⟨"A", false⟩ := rfl
  have present : ¬ Missing data "x" := fun missing => by cases missing (.text []) rfl
  have plain : ([.fallback (some "b"), ⟨"safe", none⟩, .fallback none] : List Filter).filter
      (fun filter => ¬ filter.IsFallback) = [⟨"safe", none⟩] := by decide
  refine ⟨run, present, ?_⟩
  rw [((evaluate_default run (by decide)).1 present).2, plain]
  rfl

/-- The first default supplies a text for what is missing, and the second replaces it. -/
theorem second_default_replaces :
    Expression.parse "x|default:\"a\"|default:\"b\"" = .ok ⟨"x", [.fallback (some "a"), .fallback (some "b")]⟩ ∧
      Expression.evaluate ⟨"x", [.fallback (some "a")]⟩ [] [] = .ok ⟨"a", false⟩ ∧
      Expression.evaluate ⟨"x", [.fallback (some "a"), .fallback (some "b")]⟩ [] [] = .ok ⟨"b", false⟩ :=
  ⟨rfl, rfl, rfl⟩

end Template
end RouteView
