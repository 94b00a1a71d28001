import RouteView.RouteTable
import RouteView.Proofs.Pattern.Assembly
import RouteView.Proofs.Pattern.Priority

/-!
# Built URLs are served

A URL that the table builds for a name is matched by the pattern of that name, though perhaps by another
reading than the one it was built from.  Resolution therefore finds a route at the position of the name or
before it (`resolve_reverse`).
-/
set_option autoImplicit false
namespace RouteView

namespace Segments

theorem captures?_isSome_of_derives {segments : Segments} {path : Text} {choices : List Choice}
    (distinct : segments.groupNames.Nodup) (h : Derives segments path choices) :
    ∃ captures, segments.captures? path = some captures := by
  rw [captures?]
  cases found : firstReading segments path with
  | none => exact absurd h (not_derives_of_firstReading found choices)
  | some first =>
      have names := capturedNames_sublist (isFirst_of_firstReading found).1
      obtain ⟨captures, hc, _⟩ := capturesFrom_of_agrees (agrees_of_nodup (distinct.sublist names))
      exact ⟨captures, hc⟩

end Segments

namespace RouteTable
variable {η : Type}

theorem get?_eq_some {table : RouteTable η} {name : Text} {route : Route η}
    (h : table.get? name = some route) : table[table.names.idxOf name]? = some route := by
  induction table with
  | nil => simp [get?] at h
  | cons first rest ih =>
      rw [get?, List.find?_cons] at h
      rw [names, List.map_cons, List.idxOf_cons]
      by_cases same : first.name = name
      · simp only [same, decide_true] at h
        simpa [same] using h
      · simp only [same, decide_false] at h
        rw [beq_eq_false_iff_ne.mpr same, cond_false, List.getElem?_cons_succ]
        exact ih h

/-- Resolution finds a route no later than any that matches, and none before it does. -/
theorem firstMatch_of_captures? {path : Text} {route : Route η} {captures : Captures}
    (matched : route.pattern.captures? path = some captures) (table : RouteTable η) : ∀ {position : Nat},
    table[position]? = some route →
    ∃ found first, table.firstMatch path = some found ∧ table[first]? = some found.route ∧
      first ≤ position ∧ found.route.pattern.captures? path = some found.captures := by
  induction table with
  | nil => intro position h; simp at h
  | cons head rest ih =>
      intro position h
      rw [firstMatch]
      cases hit : head.pattern.captures? path with
      | some texts => exact ⟨⟨head, texts⟩, 0, rfl, rfl, Nat.zero_le _, hit⟩
      | none =>
          cases position with
          | zero =>
              cases h
              simp [matched] at hit
          | succ position =>
              obtain ⟨found, first, hf, hp, hle, hc⟩ := ih h
              exact ⟨found, first + 1, hf, hp, Nat.succ_le_succ hle, hc⟩

/-- A URL built for a name resolves to a route at the position of that name or before it, and to the route
of the name when none before it matches. -/
theorem resolve_reverse {table : RouteTable η} {name url : Text} {params : Parameters} {route : Route η}
    {segments : Segments} (registered : table.get? name = some route) (path : route.pattern = .path segments)
    (distinct : segments.groupNames.Nodup) (noQuery : '?' ∉ route.pattern.source)
    (values : ∀ parameter ∈ segments.groupNames, ∀ text, params parameter = some text →
      text ≠ [] ∧ '/' ∉ text ∧ '?' ∉ text)
    (built : table.reverse name params = .ok url) :
    ∃ found position, table.resolve url = some found ∧ table[position]? = some found.route ∧
      position ≤ table.names.idxOf name ∧
      ((∀ earlier < table.names.idxOf name, ∀ other, table[earlier]? = some other →
        other.pattern.captures? url = none) → found.route = route) := by
  rw [reverse, registered] at built
  simp only [path, Pattern.assemble, Segments.assemble_eq_ok] at built
  have capturable : segments.Capturable params := fun parameter hm text given =>
    ⟨(values parameter hm text given).1, (values parameter hm text given).2.1⟩
  have unqueried : withoutQuery url = url := by
    refine Text.before_eq_self fun member => ?_
    rcases Segments.mem_of_fill segments built member with written | ⟨parameter, hm, text, given, hc⟩
    · rw [path] at noQuery
      exact noQuery written
    · exact (values parameter hm text given).2.2 hc
  obtain ⟨captures, matched⟩ :=
    Segments.captures?_isSome_of_derives distinct (Segments.derives_of_fill segments capturable built)
  have matches_url : route.pattern.captures? url = some captures := by rw [path]; exact matched
  obtain ⟨found, position, hf, hp, hle, hc⟩ := firstMatch_of_captures? matches_url table (get?_eq_some registered)
  refine ⟨found, position, by rw [resolve, unqueried, hf], hp, hle, fun noneBefore => ?_⟩
  rcases Nat.lt_or_eq_of_le hle with before | same
  · have unmatched := noneBefore position before found.route hp
    rw [hc] at unmatched
    cases unmatched
  · rw [same, get?_eq_some registered] at hp
    exact (Option.some.inj hp).symm

/-- The built URL is read in another way, all of it by the first parameter, and by the same route. -/
theorem resolve_reverse_ambiguous :
    let home : Route Unit := ⟨"home", .path (.literal "/" .nil), none, none⟩
    let item : Route Unit :=
      ⟨"item", .path (.literal ['/'] (.parameter ['a'] (.optional (.parameter ['b'] .nil) .nil))), none, none⟩
    let params := Parameters.ofList [(['a'], ['x']), (['b'], ['y'])]
    RouteTable.reverse [home, item] "item" params = .ok "/xy" ∧
      ∃ found, RouteTable.resolve [home, item] "/xy" = some found ∧ found.route = item := by
  intro home item params
  have values : ∀ parameter ∈ [['a'], ['b']], ∀ text, params parameter = some text →
      text ≠ [] ∧ '/' ∉ text ∧ '?' ∉ text := by
    intro parameter member text given
    rcases List.mem_cons.mp member with rfl | member
    · cases given
      decide
    · rcases List.mem_singleton.mp member with rfl
      cases given
      decide
  have registered : RouteTable.get? [home, item] "item" = some item := rfl
  have built : RouteTable.reverse [home, item] "item" params = .ok "/xy" := rfl
  obtain ⟨found, position, resolved, _, _, same⟩ :=
    resolve_reverse registered rfl (by decide) (by decide) values built
  refine ⟨built, found, resolved, same fun earlier before other at_earlier => ?_⟩
  obtain rfl : earlier = 0 := Nat.lt_one_iff.mp before
  cases at_earlier
  decide

end RouteTable
end RouteView
