import RouteView.Pattern.Basic
import RouteView.Proofs.Pattern.Chain
import RouteView.Proofs.Pattern.Priority

/-!
# Names that stand more than once

`Spells texts segments path` says that the path is written by the segments with one text for each name, the
same wherever the name stands.  These are the paths that have an agreeing derivation (`exists_spells_iff`), and
every assembled path is one of them.  Matching does not look for the agreeing derivation: it takes the
preferred one, and compares the texts afterwards.  So a spelled path is matched exactly when the preferred
derivation is an agreeing one itself (`matched_of_spells`).  In a chain, or when no name stands twice, it always
is; a name that stands twice in one stretch between slashes can take too long a text first
(`spelled_refused`).
-/
set_option autoImplicit false
namespace RouteView.Segments

/-! ## Paths with one text for each name -/

/-- The segments write the path when each name stands for its text and each group is written or left out. -/
inductive Spells (texts : Text → Text) : Segments → Text → Prop
  | nil : Spells texts nil []
  | literal {text path : Text} {rest : Segments} :
      Spells texts rest path → Spells texts (literal text rest) (text ++ path)
  | parameter {name path : Text} {rest : Segments} :
      Fills (texts name) → Spells texts rest path →
      Spells texts (parameter name rest) (texts name ++ path)
  | take {children rest : Segments} {first second : Text} :
      Spells texts children first → Spells texts rest second →
      Spells texts (optional children rest) (first ++ second)
  | skip {children rest : Segments} {path : Text} :
      Spells texts rest path → Spells texts (optional children rest) path

def Gives (texts : Text → Text) (choices : List Choice) : Prop :=
  ∀ name text, Choice.capture name text ∈ choices → text = texts name

section Gives
variable {texts : Text → Text} {choices : List Choice}

theorem gives_nil : Gives texts [] := by
  intro name text member
  cases member

theorem gives_capture {name text : Text} :
    Gives texts (.capture name text :: choices) ↔ text = texts name ∧ Gives texts choices := by
  constructor
  · intro gives
    exact ⟨gives name text (List.mem_cons_self ..),
      fun other value member => gives other value (List.mem_cons_of_mem _ member)⟩
  · intro given other value member
    obtain ⟨same, gives⟩ := given
    rcases List.mem_cons.mp member with here | later
    · cases here
      exact same
    · exact gives other value later

theorem gives_skip : Gives texts (.skip :: choices) ↔ Gives texts choices := by
  simp [Gives]

theorem gives_take {inner outer : List Choice} :
    Gives texts (.take :: inner ++ outer) ↔ Gives texts inner ∧ Gives texts outer := by
  simp only [Gives, List.cons_append, List.mem_cons, List.mem_append, reduceCtorEq, false_or]
  constructor
  · intro gives
    exact ⟨fun name text member => gives name text (Or.inl member),
      fun name text member => gives name text (Or.inr member)⟩
  · intro given name text member
    obtain ⟨inside, after⟩ := given
    rcases member with first | second
    · exact inside name text first
    · exact after name text second

theorem Gives.agrees (gives : Gives texts choices) : Agrees choices := by
  intro name first second hf hs
  rw [gives name first hf, gives name second hs]

theorem Records.gives {captures : Captures} (records : Records captures choices) :
    Gives (fun name => (captures.lookup name).getD []) choices := by
  intro name text member
  have found : captures.lookup name = some text := (records.2 name text).mpr member
  simp only [found, Option.getD_some]

end Gives

theorem Spells.derives {texts : Text → Text} {segments : Segments} {path : Text}
    (h : Spells texts segments path) : ∃ choices, Derives segments path choices ∧ Gives texts choices := by
  induction h with
  | nil => exact ⟨[], .nil, gives_nil⟩
  | literal _ ih =>
      obtain ⟨choices, derived, gives⟩ := ih
      exact ⟨choices, .literal derived, gives⟩
  | parameter fills _ ih =>
      obtain ⟨choices, derived, gives⟩ := ih
      exact ⟨_, .parameter fills derived, gives_capture.mpr ⟨rfl, gives⟩⟩
  | take _ _ ihc ihr =>
      obtain ⟨inner, inside, givesInner⟩ := ihc
      obtain ⟨outer, after, givesOuter⟩ := ihr
      exact ⟨_, .take inside after, gives_take.mpr ⟨givesInner, givesOuter⟩⟩
  | skip _ ih =>
      obtain ⟨choices, derived, gives⟩ := ih
      exact ⟨_, .skip derived, gives_skip.mpr gives⟩

theorem spells_of_derives {texts : Text → Text} {segments : Segments} {path : Text} {choices : List Choice}
    (h : Derives segments path choices) (gives : Gives texts choices) : Spells texts segments path := by
  induction h with
  | nil => exact .nil
  | literal _ ih => exact .literal (ih gives)
  | parameter fills _ ih =>
      obtain ⟨rfl, later⟩ := gives_capture.mp gives
      exact .parameter fills (ih later)
  | take _ _ ihc ihr =>
      obtain ⟨inside, after⟩ := gives_take.mp gives
      exact .take (ihc inside) (ihr after)
  | skip _ ih => exact .skip (ih (gives_skip.mp gives))

theorem exists_spells_iff {segments : Segments} {path : Text} :
    (∃ texts, Spells texts segments path) ↔ ∃ choices, Derives segments path choices ∧ Agrees choices := by
  constructor
  · intro spelled
    obtain ⟨texts, spells⟩ := spelled
    obtain ⟨choices, derived, gives⟩ := spells.derives
    exact ⟨choices, derived, gives.agrees⟩
  · intro agreeing
    obtain ⟨choices, derived, agrees⟩ := agreeing
    obtain ⟨captures, _, records⟩ := capturesFrom_of_agrees agrees
    exact ⟨_, spells_of_derives derived records.gives⟩

/-- The texts that a path was assembled from spell it. -/
theorem spells_of_assemble {segments : Segments} {params : Parameters} {route path : Text}
    (capturable : Capturable params segments) (built : segments.assemble route params = .ok path) :
    Spells (fun name => (params name).getD []) segments path := by
  have filled : fill params segments = some path := assemble_eq_ok.mp built
  apply spells_of_derives (derives_of_fill segments capturable filled)
  intro name text member
  have given : params name = some text := given_of_madeChoices segments filled member
  simp only [given, Option.getD_some]

/-! ## What matching makes of them -/

theorem matched_iff_agrees {segments : Segments} {path : Text} {first : List Choice}
    (isFirst : IsFirst segments path first) :
    (∃ captures, segments.captures? path = some captures) ↔ Agrees first := by
  rw [captures?, firstReading_of_isFirst isFirst, Option.bind_some]
  constructor
  · intro matched
    obtain ⟨captures, recorded⟩ := matched
    exact agrees_of_capturesFrom recorded
  · intro agrees
    obtain ⟨captures, recorded, _⟩ := capturesFrom_of_agrees agrees
    exact ⟨captures, recorded⟩

theorem agrees_of_derives {segments : Segments} {path : Text} {first choices : List Choice}
    (shape : segments.groupNames.Nodup ∨ segments.ChainShaped) (h : Derives segments path first)
    (derived : Derives segments path choices) (agrees : Agrees choices) : Agrees first := by
  rcases shape with distinct | chain
  · exact agrees_of_nodup ((capturedNames_sublist h).nodup distinct)
  · rw [derives_unique chain h derived]
    exact agrees

/-- A matched path is spelled by its captures.  A spelled path has a preferred derivation, and is matched exactly
when this one gives no name two texts; assembled paths are among the spelled ones. -/
theorem matched_of_spells (segments : Segments) (path : Text) :
    (∀ captures, (Pattern.path segments).captures? path = some captures →
      Spells (fun name => (captures.lookup name).getD []) segments path) ∧
    ((∃ texts, Spells texts segments path) → ∃ first, IsFirst segments path first ∧
      ((∃ captures, (Pattern.path segments).captures? path = some captures) ↔ Agrees first) ∧
      (segments.groupNames.Nodup ∨ segments.ChainShaped →
        ∃ captures, (Pattern.path segments).captures? path = some captures)) ∧
    ∀ route params, Capturable params segments → (Pattern.path segments).assemble route params = .ok path →
      ∃ texts, Spells texts segments path := by
  refine ⟨fun captures matched => ?_, fun spelled => ?_, fun route params capturable built => ?_⟩
  · obtain ⟨choices, isFirst, records⟩ := isFirst_of_captures? matched
    exact spells_of_derives isFirst.1 records.gives
  · obtain ⟨choices, derived, agrees⟩ := exists_spells_iff.mp spelled
    obtain ⟨first, isFirst⟩ := exists_isFirst derived
    have decided := matched_iff_agrees isFirst
    refine ⟨first, isFirst, decided, fun shape => ?_⟩
    exact decided.mpr (agrees_of_derives shape isFirst.1 derived agrees)
  · exact ⟨_, spells_of_assemble capturable built⟩

/-- The first text is read up to the last hyphen, which leaves a different one for the second. -/
theorem spelled_refused :
    ∃ segments, Pattern.parse "/:id-:id" = .ok (.path segments) ∧
      (Pattern.path segments).assemble ['r'] (Parameters.ofList [(['i', 'd'], "a-b")]) = .ok "/a-b-a-b" ∧
      Spells (fun _ => "a-b") segments "/a-b-a-b" ∧
      (Pattern.path segments).captures? "/a-b-a-b" = none := by
  have fills : Fills "a-b" := by
    unfold Fills
    decide
  refine ⟨.literal ['/'] (.parameter ['i', 'd'] (.literal ['-'] (.parameter ['i', 'd'] .nil))), rfl, rfl, ?_, rfl⟩
  exact .literal (.parameter fills (.literal (.parameter fills .nil)))

end RouteView.Segments
