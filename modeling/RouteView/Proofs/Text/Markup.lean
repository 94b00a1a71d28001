import RouteView.Text.CaseMap
import RouteView.Text.Entity

/-!
# Markup characters

The angle brackets and the quotes are the characters that can end a text and start markup.  `markup` is
their sequence in a text.  Escaping leaves none (`markup_escape`), and the case mappings keep the sequence
(`markup_toUpper`, `markup_toLower`): nothing in their tables is as low as these characters.
-/
set_option autoImplicit false
namespace RouteView.Text

def isMarkup (c : Char) : Bool := c = '<' || c = '>' || c = '"' || c = '\''

def markup (text : Text) : Text := text.filter isMarkup

theorem markup_append (first second : Text) : markup (first ++ second) = markup first ++ markup second :=
  List.filter_append ..

theorem markup_cons (c : Char) (rest : Text) : markup (c :: rest) = markup [c] ++ markup rest :=
  markup_append [c] rest

theorem markup_flatMap (f : Char → Text) (text : Text) : markup (text.flatMap f) = text.flatMap (markup ∘ f) :=
  List.filter_flatMap ..

/-! ## Angle brackets -/

def angles (text : Text) : Text := text.filter fun c => c = '<' || c = '>'

theorem angles_append (first second : Text) : angles (first ++ second) = angles first ++ angles second :=
  List.filter_append ..

theorem angles_around (front text back : Text) :
    angles (front ++ text ++ back) = angles front ++ angles text ++ angles back := by
  rw [angles_append, angles_append]

theorem angles_behind {front : Text} (plain : angles front = []) (text : Text) :
    angles (front ++ text) = angles text := by
  rw [angles_append, plain, List.nil_append]

theorem angles_before {back : Text} (plain : angles back = []) (text : Text) :
    angles (text ++ back) = angles text := by
  rw [angles_append, plain, List.append_nil]

theorem angles_markup (text : Text) : angles (markup text) = angles text := by
  rw [angles, markup, List.filter_filter]
  apply List.filter_congr
  intro c _
  simp only [isMarkup]
  cases decide (c = '<') <;> cases decide (c = '>') <;> rfl

/-! ## Escaping -/

theorem replaceChar_singleton {c d : Char} (image : Text) (other : d ≠ c) : replaceChar c image [d] = [d] := by
  rw [replaceChar, List.flatMap_singleton, if_neg other]

theorem escape_singleton (c : Char) : escape [c] = entity c := by
  by_cases amp : c = '&'
  · subst amp; decide
  by_cases lt : c = '<'
  · subst lt; decide
  by_cases gt : c = '>'
  · subst gt; decide
  by_cases quote : c = '"'
  · subst quote; decide
  by_cases apostrophe : c = '\''
  · subst apostrophe; decide
  rw [escape, replaceChar_singleton _ amp, replaceChar_singleton _ lt, replaceChar_singleton _ gt,
    replaceChar_singleton _ quote, replaceChar_singleton _ apostrophe, entity, if_neg amp, if_neg lt, if_neg gt,
    if_neg quote, if_neg apostrophe]

/-- The passes of escaping replace each character by its entity. -/
theorem escape_eq_flatMap (text : Text) : escape text = text.flatMap entity := by
  induction text with
  | nil => rfl
  | cons c rest ih =>
      rw [← List.singleton_append, escape_append, escape_singleton, ih, List.flatMap_append, List.flatMap_singleton]

theorem markup_entity (c : Char) : markup (entity c) = [] := by
  unfold entity
  split
  · decide
  split
  · decide
  next lt =>
    split
    · decide
    next gt =>
      split
      · decide
      next quote =>
        split
        · decide
        next apostrophe => simp [markup, isMarkup, lt, gt, quote, apostrophe]

theorem markup_escape (text : Text) : markup (escape text) = [] := by
  rw [escape_eq_flatMap, markup_flatMap, List.flatMap_eq_nil_iff]
  exact fun c _ => markup_entity c

/-! ## Case mappings -/

def lastMarkup : Nat := 62

theorem toNat_le_of_isMarkup {c : Char} (h : isMarkup c = true) : c.toNat ≤ lastMarkup := by
  simp only [isMarkup, Bool.or_eq_true, decide_eq_true_eq] at h
  rcases h with ((rfl | rfl) | rfl) | rfl <;> decide

theorem isMarkup_ofNat {n : Nat} (high : lastMarkup < n) : isMarkup (Char.ofNat n) = false := by
  cases h : isMarkup (Char.ofNat n) with
  | false => rfl
  | true =>
      by_cases valid : n.isValidChar
      · have same : Char.ofNat n = Char.ofNatAux n valid := dif_pos valid
        rw [same] at h
        have low : n ≤ lastMarkup := toNat_le_of_isMarkup h
        omega
      · have nul : Char.ofNat n = '\x00' := dif_neg valid
        rw [nul] at h
        exact absurd h (by decide)

/-- The table leaves the markup characters and everything up to them alone, and maps nothing there. -/
def AvoidsMarkup (runs : List CaseRun) (expansions : List (Nat × List Nat)) : Prop :=
  (∀ run ∈ runs, lastMarkup < run.1 ∧ lastMarkup < run.2.2.2) ∧
    ∀ entry ∈ expansions, lastMarkup < entry.1 ∧ ∀ n ∈ entry.2, lastMarkup < n

instance (runs : List CaseRun) (expansions : List (Nat × List Nat)) : Decidable (AvoidsMarkup runs expansions) := by
  unfold AvoidsMarkup; infer_instance

theorem upper_avoidsMarkup : AvoidsMarkup upperRuns upperExpansions := by decide +kernel

theorem lower_avoidsMarkup : AvoidsMarkup lowerRuns lowerExpansions := by decide +kernel

theorem mapRuns_low {n : Nat} (low : n ≤ lastMarkup) {runs : List CaseRun}
    (avoids : ∀ run ∈ runs, lastMarkup < run.1) : mapRuns n runs = n := by
  cases runs with
  | nil => rfl
  | cons run rest =>
      obtain ⟨first, last, step, target⟩ := run
      have above : lastMarkup < first := avoids _ (List.mem_cons_self ..)
      rw [mapRuns, if_pos (by omega)]

theorem mapRuns_high {n : Nat} (high : lastMarkup < n) {runs : List CaseRun}
    (avoids : ∀ run ∈ runs, lastMarkup < run.2.2.2) : lastMarkup < mapRuns n runs := by
  induction runs with
  | nil => exact high
  | cons run rest ih =>
      obtain ⟨first, last, step, target⟩ := run
      have above : lastMarkup < target := avoids _ (List.mem_cons_self ..)
      rw [mapRuns]
      split
      · exact high
      · split
        · omega
        · exact ih fun other member => avoids other (List.mem_cons_of_mem _ member)

theorem markup_mapCase {runs : List CaseRun} {expansions : List (Nat × List Nat)}
    (avoids : AvoidsMarkup runs expansions) (c : Char) : markup (mapCase runs expansions c) = markup [c] := by
  unfold mapCase
  by_cases low : c.toNat ≤ lastMarkup
  · have unexpanded : expansions.lookup c.toNat = none := by
      rw [List.lookup_eq_none_iff]
      intro entry member
      have above := (avoids.2 entry member).1
      simpa using (show c.toNat ≠ entry.1 by omega)
    rw [unexpanded, mapRuns_low low fun run member => (avoids.1 run member).1, Char.ofNat_toNat]
  · have kept : markup [c] = [] := by
      have plain : isMarkup c ≠ true := fun h => low (toNat_le_of_isMarkup h)
      simp [markup, plain]
    rw [kept, markup, List.filter_eq_nil_iff]
    cases found : expansions.lookup c.toNat with
    | some image =>
        intro d member
        obtain ⟨n, hn, rfl⟩ := List.mem_map.mp member
        obtain ⟨before, after, split, _⟩ := List.lookup_eq_some_iff.mp found
        have entry : (c.toNat, image) ∈ expansions := by simp [split]
        simp [isMarkup_ofNat ((avoids.2 _ entry).2 n hn)]
    | none =>
        intro d member
        obtain rfl := List.mem_singleton.mp member
        simp [isMarkup_ofNat (mapRuns_high (Nat.lt_of_not_le low) fun run member => (avoids.1 run member).2)]

theorem markup_toUpper (text : Text) : markup (toUpper text) = markup text := by
  induction text with
  | nil => rfl
  | cons c rest ih =>
      have head : markup (upperChar c) = markup [c] := markup_mapCase upper_avoidsMarkup c
      rw [toUpper, List.flatMap_cons, markup_append, head, markup_cons c rest]
      exact congrArg _ ih

theorem markup_lowerAfter (text : Text) : ∀ before, markup (lowerAfter before text) = markup text := by
  induction text with
  | nil => intro before; rfl
  | cons c rest ih =>
      intro before
      have head : markup (if c = 'Σ' then (if startsCased before && !startsCased rest then ['ς'] else ['σ'])
          else lowerChar c) = markup [c] := by
        split
        · next sigma => subst sigma; split <;> decide
        · exact markup_mapCase lower_avoidsMarkup c
      rw [lowerAfter, markup_append, head, ih, ← markup_cons]

theorem markup_toLower (text : Text) : markup (toLower text) = markup text := markup_lowerAfter text []

end RouteView.Text
