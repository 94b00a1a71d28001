import Mathlib.Logic.Relation
import RouteView.Pattern.Basic
import RouteView.Proofs.Pattern.Assembly

/-!
# Assembling by elimination

A path can also be assembled one group at a time: a group without groups inside becomes a literal, and when no
group is left the parameters are replaced.  No step changes what is assembled (`Eliminates.assemble_eq`) and each
takes one group away (`Eliminates.groups_eq`), so that elimination ends in the assembled path whatever groups are
chosen (`assemble_of_eliminates`).  `parts` says what the path is made of.
-/
set_option autoImplicit false
namespace RouteView.Segments

def Flat : Segments → Prop
  | nil => True
  | literal _ rest | parameter _ rest => Flat rest
  | optional .. => False

def substitute (params : Parameters) : Segments → Text
  | nil => []
  | literal text rest => text ++ substitute params rest
  | parameter name rest => (params name).getD [] ++ substitute params rest
  | optional _ rest => substitute params rest

/-- One group without groups inside becomes a literal: of its text when all its parameters have texts, and empty
when one has none. -/
inductive Eliminates (params : Parameters) : Segments → Segments → Prop
  | filled {children rest : Segments} : Flat children →
      (∀ name ∈ children.groupNames, (params name).isSome) →
      Eliminates params (optional children rest) (literal (substitute params children) rest)
  | dropped {children rest : Segments} {name : Text} : Flat children → name ∈ children.groupNames →
      params name = none → Eliminates params (optional children rest) (literal [] rest)
  | inside {children changed rest : Segments} : Eliminates params children changed →
      Eliminates params (optional children rest) (optional changed rest)
  | afterLiteral {text : Text} {rest changed : Segments} : Eliminates params rest changed →
      Eliminates params (literal text rest) (literal text changed)
  | afterParameter {name : Text} {rest changed : Segments} : Eliminates params rest changed →
      Eliminates params (parameter name rest) (parameter name changed)
  | afterGroup {children rest changed : Segments} : Eliminates params rest changed →
      Eliminates params (optional children rest) (optional children changed)

/-- The path of a sequence without groups; the first parameter from the left that has no text is reported. -/
def complete (route : Text) (params : Parameters) (segments : Segments) : Attempt Text :=
  match segments.groupNames.find? fun name => (params name).isNone with
  | some name => .error (.missingParameter name route)
  | none => .ok (substitute params segments)

/-! ## Sequences without groups -/

section Flat
variable {params : Parameters} {segments : Segments}

theorem ownNames_of_flat (flat : segments.Flat) : segments.ownNames = segments.groupNames := by
  induction segments with
  | nil => rfl
  | literal text rest ih => exact ih flat
  | parameter name rest ih => rw [ownNames, groupNames, ih flat]
  | optional children rest => exact flat.elim

theorem fill_of_flat (flat : segments.Flat) (given : ∀ name ∈ segments.groupNames, (params name).isSome) :
    fill params segments = some (substitute params segments) := by
  induction segments with
  | nil => rfl
  | literal text rest ih => exact fill_literal.mpr ⟨_, ih flat given, rfl⟩
  | parameter name rest ih =>
      rw [groupNames, List.forall_mem_cons] at given
      obtain ⟨text, found⟩ := Option.isSome_iff_exists.mp given.1
      refine fill_parameter.mpr ⟨text, _, found, ih flat given.2, ?_⟩
      rw [substitute, found, Option.getD_some]
  | optional children rest => exact flat.elim

theorem fill_of_flat_missing {name : Text} (flat : segments.Flat) (member : name ∈ segments.groupNames)
    (missing : params name = none) : fill params segments = none := by
  rw [← ownNames_of_flat flat] at member
  exact fill_eq_none segments missing member

theorem complete_eq_assemble (route : Text) (flat : segments.Flat) :
    complete route params segments = assemble route params segments := by
  induction segments with
  | nil => rfl
  | literal text rest ih =>
      rw [assemble, ← ih flat]
      simp only [complete, groupNames, substitute]
      cases rest.groupNames.find? fun name => (params name).isNone with
      | none => rfl
      | some missing => rfl
  | parameter name rest ih =>
      rw [assemble, ← ih flat]
      cases given : params name with
      | none => simp [complete, groupNames, given]
      | some text =>
          simp only [complete, groupNames, substitute, given, List.find?_cons, Option.isNone_some, Option.getD_some]
          cases rest.groupNames.find? fun name => (params name).isNone with
          | none => rfl
          | some missing => rfl
  | optional children rest => exact flat.elim

end Flat

/-! ## One step -/

section Step
variable {params : Parameters} {segments next : Segments}

theorem Eliminates.fill_eq (h : Eliminates params segments next) : fill params next = fill params segments := by
  induction h with
  | filled flat given => rw [fill, fill, fill_of_flat flat given, Option.getD_some]
  | dropped flat member missing =>
      rw [fill, fill, fill_of_flat_missing flat member missing]
      rfl
  | inside _ ih => rw [fill, fill, ih]
  | afterLiteral _ ih => rw [fill, fill, ih]
  | afterParameter _ ih => rw [fill, fill, ih]
  | afterGroup _ ih => rw [fill, fill, ih]

theorem Eliminates.assemble_eq (route : Text) (h : Eliminates params segments next) :
    assemble route params next = assemble route params segments := by
  induction h with
  | filled flat given => rw [assemble, assemble, fill_of_flat flat given, Option.getD_some]
  | dropped flat member missing =>
      rw [assemble, assemble, fill_of_flat_missing flat member missing]
      rfl
  | inside step _ => rw [assemble, assemble, step.fill_eq]
  | afterLiteral _ ih => rw [assemble, assemble, ih]
  | afterParameter _ ih => rw [assemble, assemble, ih]
  | afterGroup _ ih => rw [assemble, assemble, ih]

def groups : Segments → Nat
  | nil => 0
  | literal _ rest | parameter _ rest => groups rest
  | optional children rest => groups children + groups rest + 1

theorem groups_eq_zero : segments.groups = 0 ↔ segments.Flat := by
  induction segments with
  | nil => simp [groups, Flat]
  | literal text rest ih => exact ih
  | parameter name rest ih => exact ih
  | optional children rest => simp [groups, Flat]

theorem Eliminates.groups_eq (h : Eliminates params segments next) : segments.groups = next.groups + 1 := by
  induction h with
  | filled flat _ => rw [groups, groups, groups_eq_zero.mpr flat, Nat.zero_add]
  | dropped flat _ _ => rw [groups, groups, groups_eq_zero.mpr flat, Nat.zero_add]
  | inside _ ih => rw [groups, groups]; omega
  | afterLiteral _ ih => exact ih
  | afterParameter _ ih => exact ih
  | afterGroup _ ih => rw [groups, groups]; omega

theorem exists_eliminates (params : Parameters) (h : ¬ segments.Flat) : ∃ next, Eliminates params segments next := by
  induction segments with
  | nil => exact absurd trivial h
  | literal text rest ih =>
      obtain ⟨next, step⟩ := ih h
      exact ⟨_, .afterLiteral step⟩
  | parameter name rest ih =>
      obtain ⟨next, step⟩ := ih h
      exact ⟨_, .afterParameter step⟩
  | optional children rest ih _ =>
      by_cases flat : children.Flat
      · by_cases given : ∀ name ∈ children.groupNames, (params name).isSome
        · exact ⟨_, .filled flat given⟩
        · simp only [not_forall, Option.not_isSome_iff_eq_none] at given
          obtain ⟨name, member, missing⟩ := given
          exact ⟨_, .dropped flat member missing⟩
      · obtain ⟨next, step⟩ := ih flat
        exact ⟨_, .inside step⟩

end Step

/-! ## Whole runs -/

theorem acc_eliminates (params : Parameters) (segments : Segments) :
    Acc (fun next current => Eliminates params current next) segments := by
  refine Subrelation.accessible ?_ (InvImage.accessible groups (Nat.lt_wfRel.wf.apply segments.groups))
  intro next current step
  have taken := step.groups_eq
  change next.groups < current.groups
  omega

theorem exists_flat (params : Parameters) (segments : Segments) :
    ∃ last, Relation.ReflTransGen (Eliminates params) segments last ∧ last.Flat := by
  induction acc_eliminates params segments with
  | intro current _ ih =>
      by_cases flat : current.Flat
      · exact ⟨current, .refl, flat⟩
      · obtain ⟨next, step⟩ := exists_eliminates params flat
        obtain ⟨last, steps, ends⟩ := ih next step
        exact ⟨last, .head step steps, ends⟩

theorem assemble_of_steps {params : Parameters} {segments last : Segments} (route : Text)
    (steps : Relation.ReflTransGen (Eliminates params) segments last) :
    assemble route params last = assemble route params segments := by
  induction steps with
  | refl => rfl
  | tail _ step ih => exact (step.assemble_eq route).trans ih

/-! ## What a path is made of -/

inductive Part
  | literal (text : Text)
  | given (name : Text)

def Part.text (params : Parameters) : Part → Text
  | literal text => text
  | given name => (params name).getD []

/-- The parts of a path when these names have texts; a group is there when all parameters directly in it have
one, and takes the groups inside with it when it is not. -/
def parts (has : Text → Bool) : Segments → List Part
  | nil => []
  | literal text rest => .literal text :: parts has rest
  | parameter name rest => .given name :: parts has rest
  | optional children rest =>
      if ∀ name ∈ children.ownNames, has name then parts has children ++ parts has rest else parts has rest

theorem fill_eq_parts {params : Parameters} {segments : Segments} : ∀ {path : Text},
    fill params segments = some path →
    path = (parts (fun name => (params name).isSome) segments).flatMap (Part.text params) := by
  induction segments with
  | nil =>
      intro path filled
      exact (Option.some.inj filled).symm
  | literal text rest ih =>
      intro path filled
      obtain ⟨more, hr, rfl⟩ := fill_literal.mp filled
      rw [parts, List.flatMap_cons, ← ih hr]
      rfl
  | parameter name rest ih =>
      intro path filled
      obtain ⟨text, more, found, hr, rfl⟩ := fill_parameter.mp filled
      rw [parts, List.flatMap_cons, ← ih hr, Part.text, found, Option.getD_some]
  | optional children rest ihc ihr =>
      intro path filled
      obtain ⟨more, hr, rfl⟩ := fill_optional.mp filled
      rw [parts]
      cases inner : fill params children with
      | some text =>
          rw [if_pos ((isSome_fill children).mp (by rw [inner]; rfl)), List.flatMap_append, ← ihc inner, ← ihr hr,
            Option.getD_some]
      | none =>
          rw [if_neg fun given => by simpa [inner] using (isSome_fill children).mpr given, ← ihr hr]
          rfl

/-- Eliminating groups ends, whichever are chosen, and then completing what is left is assembling the pattern. -/
theorem assemble_of_eliminates (route : Text) (params : Parameters) (segments : Segments) :
    Acc (fun next current => Eliminates params current next) segments ∧
      (∃ last, Relation.ReflTransGen (Eliminates params) segments last ∧ ∀ next, ¬ Eliminates params last next) ∧
      (∀ last, Relation.ReflTransGen (Eliminates params) segments last → (∀ next, ¬ Eliminates params last next) →
        last.Flat ∧ complete route params last = (Pattern.path segments).assemble route params) ∧
      -- texts are put in as they stand: only whether there is one decides what else is in the path
      ∀ url, (Pattern.path segments).assemble route params = .ok url →
        url = (parts (fun name => (params name).isSome) segments).flatMap (Part.text params) := by
  refine ⟨acc_eliminates params segments, ?_, fun last steps stuck => ?_, fun url built => ?_⟩
  · obtain ⟨last, steps, flat⟩ := exists_flat params segments
    refine ⟨last, steps, fun next step => ?_⟩
    have taken := step.groups_eq
    rw [groups_eq_zero.mpr flat] at taken
    cases taken
  · have flat : last.Flat := by
      by_contra grouped
      obtain ⟨next, step⟩ := exists_eliminates params grouped
      exact stuck next step
    exact ⟨flat, (complete_eq_assemble route flat).trans (assemble_of_steps route steps)⟩
  · exact fill_eq_parts (assemble_eq_ok.mp built)

/-- A text that looks like a pattern, and an inner group that could be filled inside one that cannot. -/
example :
    let params := Parameters.ofList [(['x'], "[:z]".toList), (['z'], ['1'])]
    (Pattern.path (.parameter ['x'] (.optional (.parameter ['y'] (.optional (.parameter ['z'] .nil) .nil)) .nil))
      ).assemble ['r'] params = .ok "[:z]".toList := rfl

end RouteView.Segments
