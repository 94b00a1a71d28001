import RouteView.Proofs.RouteTable.MatchOrder

/-!
# What a match takes from the path

A path asks for the text before its first question mark, and what follows is its query (`Asks`).  Each reading
cuts the texts of its parameters out of what it reads (`captured_of_derives`).  Hence a match depends on nothing
but the text asked for, and captures nothing but parts of it that hold no slash (`resolve_confined`).
-/
set_option autoImplicit false
namespace RouteView

/-! ## The text asked for -/

def Asks (path asked : Text) : Prop :=
  '?' ∉ asked ∧ (path = asked ∨ ∃ query, path = asked ++ '?' :: query)

theorem asks_withoutQuery (path : Text) : Asks path (withoutQuery path) := by
  have whole : withoutQuery path ++ path.dropWhile (· ≠ '?') = path := List.takeWhile_append_dropWhile
  refine ⟨fun mark => ?_, ?_⟩
  · simpa using List.mem_takeWhile_imp mark
  · cases left : path.dropWhile (· ≠ '?') with
    | nil =>
        rw [left, List.append_nil] at whole
        exact Or.inl whole.symm
    | cons c query =>
        have stops := List.head_dropWhile_not (· ≠ '?') (by rw [left]; exact List.cons_ne_nil c query)
        simp only [left, List.head_cons, decide_eq_false_iff_not, ne_eq, not_not] at stops
        rw [left, stops] at whole
        exact Or.inr ⟨query, whole.symm⟩

theorem Asks.withoutQuery_eq {path asked : Text} (h : Asks path asked) : withoutQuery path = asked := by
  obtain ⟨unmarked, rfl | ⟨query, rfl⟩⟩ := h
  · exact Text.before_eq_self unmarked
  · have inside : ∀ c ∈ asked, decide (c ≠ '?') = true := by
      intro c member
      exact decide_eq_true fun mark => unmarked (mark ▸ member)
    rw [withoutQuery, Text.before, List.takeWhile_append_of_pos inside, List.takeWhile_cons_of_neg (by simp),
      List.append_nil]

/-! ## Captured texts -/

section Captured
variable {name text path : Text}

namespace Segments
variable {segments : Segments} {choices : List Choice}

/-- What a derivation captures is a part of the path, not empty and without a slash. -/
theorem captured_of_derives (h : Derives segments path choices) (captured : .capture name text ∈ choices) :
    Fills text ∧ text <:+: path := by
  induction h with
  | nil => cases captured
  | literal _ ih => exact (ih captured).imp_right fun part => part.trans (List.suffix_append ..).isInfix
  | parameter filled _ ih =>
      rcases List.mem_cons.mp captured with same | later
      · cases same
        exact ⟨filled, (List.prefix_append ..).isInfix⟩
      · exact (ih later).imp_right fun part => part.trans (List.suffix_append ..).isInfix
  | take _ _ ihc ihr =>
      rw [List.cons_append, List.mem_cons, List.mem_append] at captured
      rcases captured with other | inside | outside
      · cases other
      · exact (ihc inside).imp_right fun part => part.trans (List.prefix_append ..).isInfix
      · exact (ihr outside).imp_right fun part => part.trans (List.suffix_append ..).isInfix
  | skip _ ih => exact ih (List.mem_of_ne_of_mem Choice.noConfusion captured)

end Segments

/-- What a pattern captures are parts of the path that hold no slash, under names of its parameters. -/
theorem Pattern.captured {pattern : Pattern} {captures : Captures} (matched : pattern.captures? path = some captures)
    (captured : captures.lookup name = some text) :
    text ≠ [] ∧ text <:+: path ∧ '/' ∉ text ∧ name ∈ pattern.parameters.map Segments.Parameter.name := by
  cases pattern with
  | wildcard =>
      cases matched
      cases captured
  | path segments =>
      obtain ⟨choices, first, records⟩ := Segments.isFirst_of_captures? matched
      have taken := (records.2 name text).mp captured
      obtain ⟨⟨nonempty, flat⟩, part⟩ := Segments.captured_of_derives first.1 taken
      have key : name ∈ captures.map Prod.fst := Segments.mem_keys.mpr ⟨text, captured⟩
      exact ⟨nonempty, part, flat, segments.mem_parameters.mpr ((segments.captured_names matched).2 name key)⟩

end Captured

/-- Of a path a table sees the text before the first question mark and nothing else, and what a match captures
are parts of this text that hold no slash, each under the name of a parameter of the route that matched. -/
theorem IndexedTable.resolve_confined {η : Type} (calls : List (Registration η)) :
    (∀ path, ∃! asked, Asks path asked) ∧
    (∀ path other asked, Asks path asked → Asks other asked →
      (run calls).resolve path = (run calls).resolve other) ∧
    ∀ path asked found, Asks path asked → (run calls).resolve path = some found →
      found.route ∈ (run calls).table ∧
      ∀ name text, found.captures.lookup name = some text →
        text ≠ [] ∧ text <:+: asked ∧ '/' ∉ text ∧ '?' ∉ text ∧
          name ∈ found.route.pattern.parameters.map Segments.Parameter.name := by
  have resolved : ∀ {path asked : Text}, Asks path asked →
      (run calls).resolve path = (run calls).table.firstMatch asked := by
    intro path asked asks
    rw [resolve, RouteTable.resolve, asks.withoutQuery_eq]
  refine ⟨fun path => ⟨withoutQuery path, asks_withoutQuery path, fun asked asks => asks.withoutQuery_eq.symm⟩,
    fun path other asked first second => (resolved first).trans (resolved second).symm,
    fun path asked found asks hit => ?_⟩
  rw [resolved asks] at hit
  obtain ⟨member, matched⟩ := RouteTable.firstMatch_matches hit
  refine ⟨member, fun name text captured => ?_⟩
  obtain ⟨nonempty, part, flat, listed⟩ := Pattern.captured matched captured
  exact ⟨nonempty, part, flat, fun mark => asks.1 (part.subset mark), listed⟩

/-- Only the text before the query is captured, and a group that is left out captures nothing. -/
example : ((Pattern.parse "/a/:x[/:y]").toOption.bind (·.captures? (withoutQuery "/a/b?c=/d"))) =
    some [(['x'], ['b'])] := by decide

end RouteView
