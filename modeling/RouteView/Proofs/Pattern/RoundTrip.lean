import RouteView.Proofs.Pattern.Assembly
import RouteView.Proofs.Pattern.Priority

/-!
# From a path to its captures and back

Captures do not say which groups took part in a match.  Assembling takes a group when it has texts for it,
so the path is found again when every group has a parameter that is captured nowhere else
(`assemble_captures`).
-/
set_option autoImplicit false
namespace RouteView.Segments

/-- Every group has a parameter of its own whose name occurs only once in the whole pattern. -/
def Erasable (segments : Segments) : Prop :=
  EveryGroup (fun children => ∃ name ∈ children.ownNames, segments.groupNames.count name = 1) segments

instance (segments : Segments) : Decidable segments.Erasable := by unfold Erasable; infer_instance

theorem restores_of_records {segments : Segments} {captures : Captures} {choices : List Choice}
    (erasable : segments.Erasable) (records : Records captures choices) :
    Restores (fun name => segments.groupNames.count name = 1) (Parameters.ofList captures) segments choices := by
  refine ⟨erasable, fun name once => Nat.le_of_eq once, fun name text member => (records.2 name text).mpr member,
    fun name _ _ missing => ?_⟩
  rw [Parameters.ofList, Option.eq_none_iff_forall_ne_some]
  intro text found
  exact missing (mem_capturedNames.mpr ⟨text, (records.2 name text).mp found⟩)

/-- The captures of a path assemble to it. -/
theorem assemble_captures {segments : Segments} (route path : Text) {captures : Captures}
    (erasable : segments.Erasable) (matched : (Pattern.path segments).captures? path = some captures) :
    (Pattern.path segments).assemble route (Parameters.ofList captures) = .ok path := by
  obtain ⟨choices, first, records⟩ := isFirst_of_captures? matched
  exact assemble_eq_ok.mpr (fill_of_derives first.1 (restores_of_records erasable records))

theorem assemble_captures_nested :
    ∃ segments, Pattern.parse "/:a[/:b[/:c]]-:a" = .ok (.path segments) ∧ segments.Erasable ∧
      (Pattern.path segments).captures? "/x/y-x" = some [(['a'], ['x']), (['b'], ['y'])] ∧
      (Pattern.path segments).assemble ['r'] (Parameters.ofList [(['a'], ['x']), (['b'], ['y'])]) =
        .ok "/x/y-x" :=
  ⟨.literal ['/'] (.parameter ['a'] (.optional (.literal ['/'] (.parameter ['b']
      (.optional (.literal ['/'] (.parameter ['c'] .nil)) .nil))) (.literal ['-'] (.parameter ['a'] .nil)))),
    rfl, by decide, by decide, assemble_captures ['r'] "/x/y-x" (by decide) (by decide)⟩

end RouteView.Segments
