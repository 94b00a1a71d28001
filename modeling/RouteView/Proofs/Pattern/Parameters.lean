import Mathlib.Data.List.Nodup
import RouteView.Proofs.Pattern.Assembly
import RouteView.Proofs.Pattern.Priority
import RouteView.Proofs.Pattern.WrittenForm

/-!
# The parameters of a pattern

The list of parameters, assembling and matching go over the segments each in their own way, and agree on what a
pattern needs (`parameters_agree`): the names of the list are those that the source writes, a parameter is required
where it stands outside all groups, a path is assembled when all required names have texts, and a match captures
all required names and only names of the list.
-/
set_option autoImplicit false
namespace RouteView

/-! ## Names in the order of their first occurrences -/

theorem eraseDups_concat (names : List Text) (name : Text) :
    (names ++ [name]).eraseDups = if name ∈ names then names.eraseDups else names.eraseDups ++ [name] := by
  rw [List.eraseDups_append]
  by_cases again : name ∈ names
  · simp [List.removeAll, again]
  · simp [List.removeAll, again, List.eraseDups_cons]

theorem nodup_eraseDups (names : List Text) : names.eraseDups.Nodup := by
  induction names using List.reverseRecOn with
  | nil => exact List.nodup_nil
  | append_singleton names name ih =>
      rw [eraseDups_concat]
      by_cases again : name ∈ names
      · rw [if_pos again]
        exact ih
      · have new : name ∉ names.eraseDups := fun member => again (List.mem_eraseDups.mp member)
        rw [if_neg again, ← List.concat_eq_append]
        exact ih.concat new

namespace Segments

/-- The names in a source, from left to right: a colon in front of a letter starts one. -/
def writtenNames : Text → List Text
  | [] => []
  | c :: rest => if c = ':' ∧ nameOf rest ≠ [] then nameOf rest :: writtenNames rest else writtenNames rest

theorem writtenNames_text {rest : Text} (text : Text)
    (unnamed : ∀ before after, text = before ++ ':' :: after → nameOf (after ++ rest) = []) :
    writtenNames (text ++ rest) = writtenNames rest := by
  induction text with
  | nil => rfl
  | cons c text ih =>
      have later : ∀ before after, text = before ++ ':' :: after → nameOf (after ++ rest) = [] := by
        rintro before after rfl
        exact unnamed (c :: before) after rfl
      have here : ¬ (c = ':' ∧ nameOf (text ++ rest) ≠ []) := by
        rintro ⟨rfl, named⟩
        exact named (unnamed [] text rfl)
      rw [List.cons_append, writtenNames, if_neg here, ih later]

theorem writtenNames_print {segments : Segments} : ∀ {rest : Text}, segments.Canonical → Draft.Closes rest →
    writtenNames (segments.print ++ rest) = segments.groupNames ++ writtenNames rest := by
  induction segments with
  | nil => intro rest _ _; rfl
  | literal text more ih =>
      intro rest canonical closes
      obtain ⟨literal, other, later⟩ := canonical
      have breaks := Draft.breaks_print later other closes
      rw [print, List.append_assoc, writtenNames_text text (Draft.unnamed_of_isLiteral literal breaks),
        ih later closes, groupNames]
  | parameter name more ih =>
      intro rest canonical closes
      obtain ⟨isName, next, later⟩ := canonical
      have named : nameOf (name ++ (more.print ++ rest)) = name :=
        nameOf_append isName (Draft.not_isWord_print later next closes)
      have nonempty : name ≠ [] := by
        obtain ⟨c, word, rfl, _⟩ := isName
        simp
      have word : ':' ∉ name := by
        obtain ⟨c, word, rfl, letter, words⟩ := isName
        rintro member
        rcases List.mem_cons.mp member with rfl | member
        · exact absurd letter (by decide)
        · exact absurd (words ':' member) (by decide)
      have unnamed : ∀ before after, name = before ++ ':' :: after → nameOf (after ++ (more.print ++ rest)) = [] := by
        rintro before after rfl
        exact absurd (by simp) word
      rw [print, List.cons_append, List.cons_append, List.append_assoc, writtenNames, named,
        if_pos ⟨rfl, nonempty⟩, writtenNames_text name unnamed, ih later closes, groupNames, List.cons_append]
  | optional children more ihc ihr =>
      intro rest canonical closes
      obtain ⟨inside, later⟩ := canonical
      have closed : Draft.Closes (']' :: (more.print ++ rest)) := Or.inr ⟨_, rfl⟩
      have written : (optional children more).print ++ rest =
          '[' :: (children.print ++ ']' :: (more.print ++ rest)) := by simp [print]
      have opening : writtenNames ('[' :: (children.print ++ ']' :: (more.print ++ rest))) =
          writtenNames (children.print ++ ']' :: (more.print ++ rest)) := if_neg (by simp)
      have closing : writtenNames (']' :: (more.print ++ rest)) = writtenNames (more.print ++ rest) :=
        if_neg (by simp)
      rw [written, opening, ihc inside closed, closing, ihr later closes, groupNames, List.append_assoc]

/-- The names of a pattern are those that its source writes, in the same order. -/
theorem groupNames_of_parse {source : Text} {segments : Segments} (read : parse source = .ok segments) :
    segments.groupNames = writtenNames source := by
  obtain ⟨canonical, rfl⟩ := parse_eq_ok.mp read
  have names := writtenNames_print canonical (Or.inl rfl)
  rw [List.append_nil] at names
  rw [names]
  exact (List.append_nil _).symm

/-! ## The list of parameters -/

theorem names_noteParameter (name : Text) (required : Bool) (found : List Parameter) :
    (noteParameter name required found).map Parameter.name =
      if name ∈ found.map Parameter.name then found.map Parameter.name else found.map Parameter.name ++ [name] := by
  induction found with
  | nil => rfl
  | cons p rest ih =>
      rw [noteParameter]
      by_cases same : p.name = name
      · simp [same]
      · have other : name ≠ p.name := Ne.symm same
        rw [if_neg same, List.map_cons, ih]
        by_cases later : name ∈ rest.map Parameter.name
        · have member : name ∈ (p :: rest).map Parameter.name := List.mem_cons_of_mem _ later
          rw [if_pos later, if_pos member, List.map_cons]
        · have absent : name ∉ (p :: rest).map Parameter.name := by
            rw [List.map_cons, List.mem_cons, not_or]
            exact ⟨other, later⟩
          rw [if_neg later, if_neg absent, List.map_cons, List.cons_append]

/-- The names stand in the order in which they were first met. -/
theorem names_collect (segments : Segments) : ∀ (required : Bool) (found : List Parameter) (earlier : List Text),
    found.map Parameter.name = earlier.eraseDups →
    (collect required segments found).map Parameter.name = (earlier ++ segments.groupNames).eraseDups := by
  induction segments with
  | nil =>
      intro required found earlier met
      rw [collect, groupNames, List.append_nil, met]
  | literal text rest ih => exact ih
  | parameter name rest ih =>
      intro required found earlier met
      have noted : (noteParameter name required found).map Parameter.name = (earlier ++ [name]).eraseDups := by
        rw [names_noteParameter, eraseDups_concat, met]
        simp only [List.mem_eraseDups]
      rw [collect, ih required _ _ noted, groupNames, List.append_assoc, List.singleton_append]
  | optional children rest ihc ihr =>
      intro required found earlier met
      have inside := ihc false found earlier met
      rw [collect, ihr required _ _ inside, groupNames, List.append_assoc]

theorem mem_noteParameter {name other : Text} {required : Bool} (found : List Parameter) :
    ⟨other, true⟩ ∈ noteParameter name required found ↔
      ⟨other, true⟩ ∈ found ∨ required = true ∧ other = name := by
  induction found with
  | nil => simp [noteParameter, and_comm, eq_comm]
  | cons p rest ih =>
      obtain ⟨first, flag⟩ := p
      rw [noteParameter]
      by_cases same : first = name
      · subst same
        have flags : true = (flag || required) ↔ true = flag ∨ required = true := by
          cases flag <;> simp [eq_comm]
        simp only [if_true, List.mem_cons, Parameter.mk.injEq, flags]
        tauto
      · simp only [if_neg same, List.mem_cons, ih, or_assoc]

/-- A parameter is marked as required where it stands outside all groups. -/
theorem mem_collect {name : Text} (segments : Segments) : ∀ (required : Bool) (found : List Parameter),
    ⟨name, true⟩ ∈ collect required segments found ↔
      ⟨name, true⟩ ∈ found ∨ required = true ∧ name ∈ segments.ownNames := by
  induction segments with
  | nil => intro required found; simp [collect, ownNames]
  | literal text rest ih => exact ih
  | parameter other rest ih =>
      intro required found
      rw [collect, ih, mem_noteParameter, ownNames, List.mem_cons, or_assoc, ← and_or_left]
  | optional children rest ihc ihr =>
      intro required found
      rw [collect, ihr, ihc, ownNames]
      simp

theorem names_parameters (segments : Segments) :
    segments.parameters.map Parameter.name = segments.groupNames.eraseDups :=
  names_collect segments true [] [] rfl

theorem nodup_parameters (segments : Segments) : (segments.parameters.map Parameter.name).Nodup := by
  rw [names_parameters]
  exact nodup_eraseDups _

/-! ## Assembling -/

section Given
variable {params others : Parameters}

theorem assemble_eq_error {route : Text} {fault : Fault} (segments : Segments) :
    assemble route params segments = .error fault ↔
      ∃ name, segments.ownNames.find? (fun name => (params name).isNone) = some name ∧
        fault = .missingParameter name route := by
  induction segments with
  | nil => simp [assemble, ownNames]
  | literal text rest ih => rw [assemble, map_eq_error, ih, ownNames]
  | parameter name rest ih =>
      rw [assemble, ownNames, List.find?_cons]
      cases given : params name with
      | none => simp [eq_comm]
      | some text =>
          dsimp only [Option.isNone_some]
          rw [map_eq_error, ih]
  | optional children rest _ ih => rw [assemble, map_eq_error, ih, ownNames]

theorem fill_congr (segments : Segments) (same : ∀ name ∈ segments.groupNames, params name = others name) :
    fill params segments = fill others segments := by
  induction segments with
  | nil => rfl
  | literal text rest ih => rw [fill, fill, ih same]
  | parameter name rest ih =>
      rw [groupNames, List.forall_mem_cons] at same
      rw [fill, fill, same.1, ih same.2]
  | optional children rest ihc ihr =>
      rw [groupNames, List.forall_mem_append] at same
      rw [fill, fill, ihc same.1, ihr same.2]

theorem assemble_congr (route : Text) (segments : Segments)
    (same : ∀ name ∈ segments.groupNames, params name = others name) :
    assemble route params segments = assemble route others segments := by
  induction segments with
  | nil => rfl
  | literal text rest ih => rw [assemble, assemble, ih same]
  | parameter name rest ih =>
      rw [groupNames, List.forall_mem_cons] at same
      rw [assemble, assemble, same.1, ih same.2]
  | optional children rest _ ih =>
      rw [groupNames, List.forall_mem_append] at same
      rw [assemble, assemble, fill_congr children same.1, ih same.2]

end Given

theorem ownNames_sublist_captured {segments : Segments} {path : Text} {choices : List Choice}
    (h : Derives segments path choices) : segments.ownNames.Sublist (capturedNames choices) := by
  induction h with
  | nil => exact List.Sublist.slnil
  | literal _ ih => exact ih
  | parameter _ _ ih => exact ih.cons_cons _
  | take _ _ _ ihr =>
      rw [List.cons_append, capturedNames, capturedNames_append]
      exact ihr.trans (List.sublist_append_right ..)
  | skip _ ih => exact ih

theorem mem_keys {captures : Captures} {name : Text} :
    name ∈ captures.map Prod.fst ↔ ∃ text, captures.lookup name = some text := by
  rw [← Option.isSome_iff_exists, List.lookup_isSome_iff]
  simp only [List.mem_map, beq_iff_eq, @eq_comm _ name]

theorem Records.mem_keys {captures : Captures} {choices : List Choice} (records : Records captures choices)
    {name : Text} : name ∈ captures.map Prod.fst ↔ name ∈ capturedNames choices := by
  rw [Segments.mem_keys, mem_capturedNames]
  exact exists_congr fun text => records.2 name text

theorem parse_of_pattern {source : Text} {segments : Segments} (read : Pattern.parse source = .ok (.path segments)) :
    parse source = .ok segments := by
  have found : Pattern.parse? source = .ok (.path segments) := mapError_eq_ok.mp read
  rw [Pattern.parse?] at found
  by_cases wildcard : source = ['*']
  · rw [if_pos wildcard] at found
    cases found
  · rw [if_neg wildcard] at found
    obtain ⟨others, parsed, found⟩ := bind_eq_ok.mp found
    split at found
    · cases found
    · cases found
      exact parsed

/-! ## What a pattern needs -/

section Agree
variable (segments : Segments)

theorem mem_parameters {name : Text} : name ∈ segments.parameters.map Parameter.name ↔ name ∈ segments.groupNames := by
  rw [names_parameters, List.mem_eraseDups]

theorem required_iff {p : Parameter} (member : p ∈ segments.parameters) :
    p.required = true ↔ p.name ∈ segments.ownNames := by
  have marked : ⟨p.name, true⟩ ∈ segments.parameters ↔ p.name ∈ segments.ownNames := by
    simp [parameters, mem_collect]
  rw [← marked]
  constructor
  · intro required
    rw [← required]
    exact member
  · intro found
    have same := List.inj_on_of_nodup_map segments.nodup_parameters member found rfl
    rw [same]

/-- The required names are those outside all groups. -/
theorem forall_required {P : Text → Prop} :
    (∀ p ∈ segments.parameters, p.required = true → P p.name) ↔ ∀ name ∈ segments.ownNames, P name := by
  constructor
  · intro h name own
    have listed := segments.mem_parameters.mpr ((ownNames_sublist segments).subset own)
    obtain ⟨p, member, rfl⟩ := List.mem_map.mp listed
    exact h p member ((segments.required_iff member).mpr own)
  · intro h p member required
    exact h p.name ((segments.required_iff member).mp required)

theorem assemble_isOk {route : Text} {params : Parameters} :
    (∃ url, assemble route params segments = .ok url) ↔ ∀ name ∈ segments.ownNames, (params name).isSome := by
  rw [← isSome_fill, Option.isSome_iff_exists]
  exact exists_congr fun url => assemble_eq_ok

theorem assemble_leftmost {route : Text} {params : Parameters} {fault : Fault} :
    assemble route params segments = .error fault ↔
      ∃ before name after, segments.ownNames = before ++ name :: after ∧
        (∀ earlier ∈ before, (params earlier).isSome) ∧ params name = none ∧
        fault = .missingParameter name route := by
  rw [assemble_eq_error]
  simp only [List.find?_eq_some_iff_append, Option.isNone_iff_eq_none, Bool.not_eq_true', Option.isNone_eq_false_iff]
  constructor
  · rintro ⟨name, ⟨missing, before, after, split, given⟩, rfl⟩
    exact ⟨before, name, after, split, given, missing, rfl⟩
  · rintro ⟨before, name, after, split, given, missing, rfl⟩
    exact ⟨name, ⟨missing, before, after, split, given⟩, rfl⟩

theorem captured_names {path : Text} {captures : Captures} (matched : segments.captures? path = some captures) :
    (∀ name ∈ segments.ownNames, name ∈ captures.map Prod.fst) ∧
      ∀ name ∈ captures.map Prod.fst, name ∈ segments.groupNames := by
  obtain ⟨choices, first, records⟩ := isFirst_of_captures? matched
  constructor
  · intro name own
    exact records.mem_keys.mpr ((ownNames_sublist_captured first.1).subset own)
  · intro name key
    exact (capturedNames_sublist first.1).subset (records.mem_keys.mp key)

end Agree

/-- The parameters of a pattern are what assembling needs and what a match captures. -/
theorem parameters_agree (segments : Segments) :
    (segments.parameters.map Parameter.name = segments.groupNames.eraseDups ∧
      (segments.parameters.map Parameter.name).Nodup ∧
      (∀ source, Pattern.parse source = .ok (.path segments) → segments.groupNames = writtenNames source) ∧
      ∀ p ∈ segments.parameters, p.required = true ↔ p.name ∈ segments.ownNames) ∧
    (∀ route params,
      ((∃ url, (Pattern.path segments).assemble route params = .ok url) ↔
        ∀ p ∈ segments.parameters, p.required = true → (params p.name).isSome) ∧
      (∀ fault, (Pattern.path segments).assemble route params = .error fault ↔
        ∃ before name after, segments.ownNames = before ++ name :: after ∧
          (∀ earlier ∈ before, (params earlier).isSome) ∧ params name = none ∧
          fault = .missingParameter name route) ∧
      ∀ others : Parameters, (∀ p ∈ segments.parameters, params p.name = others p.name) →
        (Pattern.path segments).assemble route params = (Pattern.path segments).assemble route others) ∧
    ∀ path captures, (Pattern.path segments).captures? path = some captures →
      (∀ p ∈ segments.parameters, p.required = true → p.name ∈ captures.map Prod.fst) ∧
      (∀ name ∈ captures.map Prod.fst, name ∈ segments.parameters.map Parameter.name) ∧
      ∀ route, ∃ url, (Pattern.path segments).assemble route (Parameters.ofList captures) = .ok url := by
  refine ⟨⟨segments.names_parameters, segments.nodup_parameters,
      fun source read => groupNames_of_parse (parse_of_pattern read), fun p member => segments.required_iff member⟩,
    fun route params => ⟨?_, fun fault => segments.assemble_leftmost, fun others same => ?_⟩,
    fun path captures matched => ?_⟩
  · exact segments.assemble_isOk.trans segments.forall_required.symm
  · refine assemble_congr route segments fun name member => ?_
    obtain ⟨p, listed, rfl⟩ := List.mem_map.mp (segments.mem_parameters.mpr member)
    exact same p listed
  · obtain ⟨needed, listed⟩ := segments.captured_names matched
    refine ⟨segments.forall_required.mpr needed, fun name key => segments.mem_parameters.mpr (listed name key),
      fun route => segments.assemble_isOk.mpr fun name own => ?_⟩
    exact Option.isSome_iff_exists.mpr (mem_keys.mp (needed name own))

/-- A name that stands first inside a group and then outside is required, and listed where it stands first. -/
example : (Pattern.parse "[/:a]/:b/:a").map Pattern.parameters = .ok [⟨['a'], true⟩, ⟨['b'], true⟩] := by decide

end Segments
end RouteView
