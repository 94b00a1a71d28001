import RouteView.Pattern.Basic
import RouteView.Proofs.Pattern.Assembly
import RouteView.Proofs.Pattern.Priority

/-!
# Patterns that read their own paths back

In a chain a parameter is followed by a slash, by a group or by nothing, and a group begins with a slash and
stands last.  Each text then ends at the next slash or at the end of the path, a group is taken exactly when
something is left to read, and so a path has one reading at most (`derives_unique`).  Matching an assembled
path therefore gives back the texts that were put into it (`captures?_assemble`), whichever groups they fill.
-/
set_option autoImplicit false
namespace RouteView.Segments

/-! ## Chains -/

def startsSlash : Segments → Bool
  | literal ('/' :: _) _ => true
  | _ => false

def endsText : Segments → Bool
  | nil | optional .. => true
  | segments => segments.startsSlash

def ChainShaped : Segments → Prop
  | nil => True
  | literal _ rest => ChainShaped rest
  | parameter _ rest => rest.endsText = true ∧ ChainShaped rest
  | optional children rest => rest = nil ∧ children.startsSlash = true ∧ ChainShaped children

instance decidableChainShaped : ∀ segments, Decidable (ChainShaped segments)
  | nil => isTrue trivial
  | literal _ rest => decidableChainShaped rest
  | parameter _ rest =>
      have := decidableChainShaped rest
      inferInstanceAs (Decidable (rest.endsText = true ∧ ChainShaped rest))
  | optional children rest =>
      have := decidableChainShaped children
      inferInstanceAs (Decidable (rest = nil ∧ children.startsSlash = true ∧ ChainShaped children))

/-! ## One reading -/

def AtBoundary (path : Text) : Prop := path = [] ∨ ∃ after, path = '/' :: after

theorem before_slash {text after : Text} (noSlash : '/' ∉ text) (boundary : AtBoundary after) :
    Text.before '/' (text ++ after) = text := by
  induction text with
  | nil =>
      rcases boundary with rfl | ⟨rest, rfl⟩
      · rfl
      · rfl
  | cons c text ih =>
      rw [List.mem_cons, not_or] at noSlash
      have tail := ih noSlash.2
      have different : c ≠ '/' := Ne.symm noSlash.1
      unfold Text.before at tail ⊢
      rw [List.cons_append, List.takeWhile_cons_of_pos (by simpa using different), tail]

theorem append_inj_boundary {text other after later : Text} (noSlash : '/' ∉ text) (alsoNone : '/' ∉ other)
    (boundary : AtBoundary after) (end_later : AtBoundary later) (same : text ++ after = other ++ later) :
    text = other ∧ after = later := by
  have texts : text = other := by
    calc text = Text.before '/' (text ++ after) := (before_slash noSlash boundary).symm
      _ = Text.before '/' (other ++ later) := by rw [same]
      _ = other := before_slash alsoNone end_later
  subst texts
  exact ⟨rfl, List.append_cancel_left same⟩

theorem derives_startsSlash {segments : Segments} {path : Text} {choices : List Choice}
    (starts : segments.startsSlash = true) (h : Derives segments path choices) :
    ∃ after, path = '/' :: after := by
  unfold startsSlash at starts
  split at starts
  · next text rest =>
      obtain ⟨after, rfl, _⟩ := derives_literal.mp h
      exact ⟨text ++ after, rfl⟩
  · cases starts

theorem derives_endsText {segments : Segments} {path : Text} {choices : List Choice}
    (chain : segments.ChainShaped) (ends : segments.endsText = true) (h : Derives segments path choices) :
    AtBoundary path := by
  cases segments with
  | nil => exact Or.inl (derives_nil.mp h).1
  | literal text rest => exact Or.inr (derives_startsSlash ends h)
  | parameter name rest => cases ends
  | optional children rest =>
      obtain ⟨rfl, starts, _⟩ := chain
      rcases derives_optional.mp h with ⟨first, second, inner, outer, rfl, _, hc, _⟩ | ⟨more, _, hr⟩
      · obtain ⟨after, rfl⟩ := derives_startsSlash starts hc
        exact Or.inr ⟨after ++ second, rfl⟩
      · exact Or.inl (derives_nil.mp hr).1

theorem derives_unique {segments : Segments} : ∀ {path : Text} {choices others : List Choice},
    segments.ChainShaped → Derives segments path choices → Derives segments path others →
    choices = others := by
  induction segments with
  | nil =>
      intro path choices others _ h ho
      rw [(derives_nil.mp h).2, (derives_nil.mp ho).2]
  | literal text rest ih =>
      intro path choices others chain h ho
      obtain ⟨after, rfl, hr⟩ := derives_literal.mp h
      obtain ⟨later, same, hl⟩ := derives_literal.mp ho
      obtain rfl : after = later := List.append_cancel_left same
      exact ih chain hr hl
  | parameter name rest ih =>
      intro path choices others chain h ho
      obtain ⟨text, after, more, rfl, rfl, fills, hr⟩ := derives_parameter.mp h
      obtain ⟨other, later, rival, same, rfl, otherFills, hl⟩ := derives_parameter.mp ho
      have boundary : AtBoundary after := derives_endsText chain.2 chain.1 hr
      have otherBoundary : AtBoundary later := derives_endsText chain.2 chain.1 hl
      obtain ⟨rfl, rfl⟩ := append_inj_boundary fills.2 otherFills.2 boundary otherBoundary same
      rw [ih chain.2 hr hl]
  | optional children rest ihc _ =>
      intro path choices others chain h ho
      obtain ⟨rfl, starts, inside⟩ := chain
      have taken : ∀ {inner outer : List Choice} {first second : Text},
          Derives children first inner → Derives nil second outer →
          outer = [] ∧ second = [] ∧ first ++ second ≠ [] := by
        intro inner outer first second hc hr
        obtain ⟨after, rfl⟩ := derives_startsSlash starts hc
        exact ⟨(derives_nil.mp hr).2, (derives_nil.mp hr).1, by simp⟩
      rcases derives_optional.mp h with ⟨first, second, inner, outer, rfl, rfl, hc, hr⟩ | ⟨more, rfl, hr⟩
      · obtain ⟨rfl, rfl, nonempty⟩ := taken hc hr
        rcases derives_optional.mp ho with ⟨third, fourth, others, last, same, rfl, hoc, hor⟩ | ⟨more, rfl, hor⟩
        · obtain ⟨rfl, rfl, _⟩ := taken hoc hor
          rw [List.append_nil, List.append_nil] at same
          subst same
          rw [ihc inside hc hoc]
        · exact absurd (derives_nil.mp hor).1 nonempty
      · rcases derives_optional.mp ho with ⟨third, fourth, others, last, rfl, rfl, hoc, hor⟩ | ⟨rival, rfl, hor⟩
        · exact absurd (derives_nil.mp hr).1 (taken hoc hor).2.2
        · rw [(derives_nil.mp hr).2, (derives_nil.mp hor).2]

theorem captures?_of_only {segments : Segments} {path : Text} {choices : List Choice}
    (h : Derives segments path choices) (only : ∀ others, Derives segments path others → others = choices)
    (agrees : Agrees choices) :
    ∃ captures, segments.captures? path = some captures ∧ Records captures choices := by
  rw [captures?]
  cases found : firstReading segments path with
  | none => exact absurd h (not_derives_of_firstReading found choices)
  | some first =>
      obtain rfl : first = choices := only first (isFirst_of_firstReading found).1
      exact capturesFrom_of_agrees agrees

/-! ## What assembling puts in -/

/-- The parameters that an assembled path holds: those outside all groups, and those of the groups that are
kept because their own parameters all have texts. -/
def keptNames (params : Parameters) : Segments → List Text
  | nil => []
  | literal _ rest => keptNames params rest
  | parameter name rest => name :: keptNames params rest
  | optional children rest =>
      if ∀ name ∈ children.ownNames, (params name).isSome then
        keptNames params children ++ keptNames params rest
      else keptNames params rest

theorem capturedNames_madeChoices (params : Parameters) (segments : Segments) :
    capturedNames (madeChoices params segments) = keptNames params segments := by
  induction segments with
  | nil => rfl
  | literal text rest ih => exact ih
  | parameter name rest ih => rw [madeChoices, capturedNames, keptNames, ih]
  | optional children rest ihc ihr =>
      rw [madeChoices, keptNames]
      by_cases kept : (fill params children).isSome = true
      · rw [if_pos kept, if_pos ((isSome_fill children).mp kept), List.cons_append, capturedNames,
          capturedNames_append, ihc, ihr]
      · rw [if_neg kept, if_neg fun given => kept ((isSome_fill children).mpr given), capturedNames, ihr]

theorem given_of_madeChoices {params : Parameters} {name text : Text} (segments : Segments) :
    ∀ {path : Text}, fill params segments = some path →
      Choice.capture name text ∈ madeChoices params segments → params name = some text := by
  induction segments with
  | nil => intro path _ member; simp [madeChoices] at member
  | literal literalText rest ih =>
      intro path filled member
      obtain ⟨more, hr, _⟩ := fill_literal.mp filled
      exact ih hr member
  | parameter first rest ih =>
      intro path filled member
      obtain ⟨value, more, given, hr, _⟩ := fill_parameter.mp filled
      rw [madeChoices, given, Option.getD_some, List.mem_cons, Choice.capture.injEq] at member
      rcases member with ⟨rfl, rfl⟩ | member
      · exact given
      · exact ih hr member
  | optional children rest ihc ihr =>
      intro path filled member
      obtain ⟨more, hr, _⟩ := fill_optional.mp filled
      rw [madeChoices] at member
      cases inside : fill params children with
      | none =>
          have later : Choice.capture name text ∈ madeChoices params rest := by simpa [inside] using member
          exact ihr hr later
      | some value =>
          have parts : Choice.capture name text ∈ madeChoices params children ∨
              Choice.capture name text ∈ madeChoices params rest := by
            simpa [inside] using member
          rcases parts with inner | later
          · exact ihc inside inner
          · exact ihr hr later

theorem lookup_of_records {params : Parameters} {segments : Segments} {path : Text} {captures : Captures}
    (filled : fill params segments = some path) (records : Records captures (madeChoices params segments)) :
    (∀ name, captures.lookup name = if name ∈ keptNames params segments then params name else none) ∧
      ∀ name ∈ keptNames params segments, (params name).isSome := by
  have captured : ∀ name ∈ keptNames params segments, ∃ text,
      captures.lookup name = some text ∧ params name = some text := by
    intro name kept
    rw [← capturedNames_madeChoices, mem_capturedNames] at kept
    obtain ⟨text, member⟩ := kept
    exact ⟨text, (records.2 name text).mpr member, given_of_madeChoices segments filled member⟩
  constructor
  · intro name
    by_cases kept : name ∈ keptNames params segments
    · obtain ⟨text, found, given⟩ := captured name kept
      rw [if_pos kept, found, given]
    · rw [if_neg kept, Option.eq_none_iff_forall_ne_some]
      intro text found
      have member := mem_capturedNames.mpr ⟨text, (records.2 name text).mp found⟩
      rw [capturedNames_madeChoices] at member
      exact kept member
  · intro name kept
    obtain ⟨text, _, given⟩ := captured name kept
    rw [given]
    rfl

/-- An assembled path is matched, and its captures are the texts that were given to the parameters in it. -/
theorem captures?_assemble {pattern : Pattern} {route url : Text} {params : Parameters}
    (chain : pattern.segments.ChainShaped)
    (values : ∀ name ∈ pattern.segments.groupNames, ∀ text, params name = some text → text ≠ [] ∧ '/' ∉ text)
    (built : pattern.assemble route params = .ok url) :
    ∃ captures, pattern.captures? url = some captures ∧ (captures.map Prod.fst).Nodup ∧
      (∀ name, captures.lookup name =
        if name ∈ keptNames params pattern.segments then params name else none) ∧
      ∀ name ∈ keptNames params pattern.segments, (params name).isSome := by
  cases pattern with
  | wildcard =>
      refine ⟨[], rfl, List.nodup_nil, fun name => ?_, fun name kept => ?_⟩
      · simp [Pattern.segments, keptNames]
      · simp [Pattern.segments, keptNames] at kept
  | path segments =>
      have filled : fill params segments = some url := assemble_eq_ok.mp built
      have derived := derives_of_fill segments values filled
      have agrees : Agrees (madeChoices params segments) := by
        intro name first second hf hs
        have given := given_of_madeChoices segments filled hf
        exact Option.some.inj (given.symm.trans (given_of_madeChoices segments filled hs))
      obtain ⟨captures, matched, records⟩ :=
        captures?_of_only derived (fun others ho => derives_unique chain ho derived) agrees
      exact ⟨captures, matched, records.1, lookup_of_records filled records⟩

/-- A name that stands twice, and an inner group that is dropped for want of a text. -/
theorem captures?_assemble_dropped :
    let params := Parameters.ofList [(['x'], ['1']), (['y'], ['2'])]
    ∃ segments, Pattern.parse "/:x[/:y/n:x[/:z]]" = .ok (.path segments) ∧
      (Pattern.path segments).assemble ['r'] params = .ok "/1/2/n1" ∧
      ∃ captures, (Pattern.path segments).captures? "/1/2/n1" = some captures ∧
        captures.lookup ['x'] = some ['1'] ∧ captures.lookup ['y'] = some ['2'] ∧
        captures.lookup ['z'] = none := by
  intro params
  let segments : Segments := .literal ['/'] (.parameter ['x'] (.optional (.literal ['/'] (.parameter ['y']
    (.literal ['/', 'n'] (.parameter ['x'] (.optional (.literal ['/'] (.parameter ['z'] .nil)) .nil))))) .nil))
  have values : ∀ name ∈ segments.groupNames, ∀ text, params name = some text → text ≠ [] ∧ '/' ∉ text := by
    intro name member text given
    simp only [segments, groupNames, List.append_nil, List.mem_cons, List.not_mem_nil, or_false] at member
    rcases member with rfl | rfl | rfl | rfl
    · cases given; decide
    · cases given; decide
    · cases given; decide
    · cases given
  have chain : (Pattern.path segments).segments.ChainShaped := by decide
  have built : (Pattern.path segments).assemble ['r'] params = .ok "/1/2/n1" := rfl
  obtain ⟨captures, matched, _, lookup, _⟩ := captures?_assemble chain values built
  exact ⟨segments, rfl, built, captures, matched, lookup ['x'], lookup ['y'], lookup ['z']⟩

end RouteView.Segments
