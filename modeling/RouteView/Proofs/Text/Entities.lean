import RouteView.Proofs.Text.Markup

/-!
# Entities

Escaping is one substitution, which takes each character by itself: the entities of the special characters hold no
other special character than the ampersand in front (`not_mem_tail_entity`), so no pass of escaping finds anything in
what an earlier pass wrote, and every ampersand of the outcome begins an entity (`entity_of_ampersand`).  Hence the
entities can be read back from left to right (`unescape_escape`), and a text is determined by its escaped form.
-/
set_option autoImplicit false
namespace RouteView.Text

def special : Text := "&<>\"'"

theorem mem_special {c : Char} : c ∈ special ↔ c = '&' ∨ c = '<' ∨ c = '>' ∨ c = '"' ∨ c = '\'' := by
  simp [special]

theorem entity_of_not_special {c : Char} (plain : c ∉ special) : entity c = [c] := by
  have apart : c ≠ '&' ∧ c ≠ '<' ∧ c ≠ '>' ∧ c ≠ '"' ∧ c ≠ '\'' := by simpa only [mem_special, not_or] using plain
  obtain ⟨amp, lt, gt, quote, apostrophe⟩ := apart
  rw [entity, if_neg amp, if_neg lt, if_neg gt, if_neg quote, if_neg apostrophe]

/-! ## Ampersands -/

theorem not_mem_tail_entity (c : Char) : '&' ∉ (entity c).tail := by
  by_cases member : c ∈ special
  · rcases mem_special.mp member with rfl | rfl | rfl | rfl | rfl <;> decide
  · rw [entity_of_not_special member]
    exact List.not_mem_nil

theorem special_of_mem_entity {c : Char} (inside : '&' ∈ entity c) : c ∈ special := by
  apply Decidable.byContradiction
  intro plain
  rw [entity_of_not_special plain, List.mem_singleton] at inside
  rw [← inside] at plain
  exact plain (by decide)

/-- Every ampersand of an escaped text begins the entity of a special character. -/
theorem entity_of_ampersand {text after : Text} : ∀ before : Text,
    text.flatMap entity = before ++ '&' :: after → ∃ c ∈ special, entity c <+: '&' :: after := by
  induction text with
  | nil => simp
  | cons c rest ih =>
      intro before split
      rw [List.flatMap_cons] at split
      rcases List.append_eq_append_iff.mp split with ⟨more, _, later⟩ | ⟨more, here, whole⟩
      · exact ih _ later
      · cases more with
        | nil => exact ih [] whole.symm
        | cons d more =>
            obtain ⟨rfl, behind⟩ := List.cons.inj whole
            -- the ampersand stands in the entity of `c`, where nothing but the first character is one
            cases before with
            | nil =>
                have member : '&' ∈ entity c := by
                  rw [here]
                  exact List.mem_cons_self
                exact ⟨c, special_of_mem_entity member, rest.flatMap entity, split⟩
            | cons first before =>
                have tail := not_mem_tail_entity c
                rw [here] at tail
                exact absurd (List.mem_append_right before List.mem_cons_self) tail

/-! ## Reading back -/

theorem unescape_cons {c : Char} (other : c ≠ '&') (rest : Text) : unescape (c :: rest) = c :: unescape rest := by
  rw [unescape.eq_def]
  split <;> simp_all

theorem unescape_entity (c : Char) (rest : Text) : unescape (entity c ++ rest) = c :: unescape rest := by
  by_cases member : c ∈ special
  · rcases mem_special.mp member with rfl | rfl | rfl | rfl | rfl <;> rfl
  · rw [entity_of_not_special member, List.singleton_append]
    refine unescape_cons (fun amp => member ?_) rest
    rw [amp]
    decide

theorem unescape_escape (text : Text) : unescape (escape text) = text := by
  rw [escape_eq_flatMap]
  induction text with
  | nil => rw [List.flatMap_nil, unescape]
  | cons c rest ih => rw [List.flatMap_cons, unescape_entity, ih]

theorem escape_injective : Function.Injective escape := Function.LeftInverse.injective unescape_escape

/-- The passes of escaping come to one substitution of the characters one by one.  It leaves no markup and no
ampersand but those that begin an entity, and reading the entities back undoes it. -/
theorem escape_substitutes (text : Text) :
    escape text = text.flatMap entity ∧
    (∀ other, escape (text ++ other) = escape text ++ escape other) ∧
    (∀ c ∈ ['<', '>', '"', '\''], c ∉ escape text) ∧
    (∀ before after, escape text = before ++ '&' :: after → ∃ c ∈ special, entity c <+: '&' :: after) ∧
    unescape (escape text) = text ∧
    ∀ other, escape other = escape text → other = text := by
  refine ⟨escape_eq_flatMap text, escape_append text, fun c member inside => ?_, fun before after split => ?_,
    unescape_escape text, fun other same => escape_injective same⟩
  · have bracket : isMarkup c = true := by
      simp only [List.mem_cons, List.not_mem_nil, or_false] at member
      rcases member with rfl | rfl | rfl | rfl <;> rfl
    have kept : c ∈ markup (escape text) := List.mem_filter.mpr ⟨inside, bracket⟩
    rw [markup_escape] at kept
    cases kept
  · rw [escape_eq_flatMap] at split
    exact entity_of_ampersand before split

/-- Entities in the text, and parts of them, are escaped like everything else. -/
example : escape "&amp;lt; &#x27" = "&amp;amp;lt; &amp;#x27".toList := by decide

end RouteView.Text
