import Mathlib.Data.List.Forall2
import RouteView.Proofs.Pattern.Captures
import RouteView.Proofs.Pattern.Marks

/-!
# Patterns as regular expressions

A pattern compiles to a regular expression with one group for each parameter.  `Regex.ways` lists the ways
in which an expression matches a start of a text, in the order in which a backtracking search tries them:
an option is taken before it is left out, and a run of characters is first as long as it can be.  The
search settles on the first way that leaves nothing.  `captures?_eq_nameGroups` says that pairing its groups
with the names of the parameters gives the captures of the pattern.
-/
set_option autoImplicit false
namespace RouteView

inductive Regex
  | empty
  | char (c : Char)
  /-- One or more characters other than this one. -/
  | run (excluded : Char)
  | group (inner : Regex)
  | option (inner : Regex)
  | append (first second : Regex)

namespace Regex

def print : Regex → Text
  | empty => []
  | char c => Segments.escapeMeta [c]
  | run excluded => ['[', '^', excluded, ']', '+']
  | group inner => '(' :: print inner ++ [')']
  | option inner => '(' :: '?' :: ':' :: print inner ++ [')', '?']
  | append first second => print first ++ print second

def groupCount : Regex → Nat
  | empty | char _ | run _ => 0
  | group inner => 1 + groupCount inner
  | option inner => groupCount inner
  | append first second => groupCount first + groupCount second

/-- A way of matching a start of a text: the texts of the groups, none for a group that took no part, and
what is left of the text. -/
abbrev Way := List (Option Text) × Text

def runs (excluded : Char) : Text → List Text
  | [] => []
  | d :: text => if d = excluded then [] else runs excluded text ++ [text]

/-- The ways of matching a start of a text, in the order in which they are tried. -/
def ways : Regex → Text → List Way
  | empty, text => [([], text)]
  | char c, text => if text.head? = some c then [([], text.tail)] else []
  | run excluded, text => (runs excluded text).map fun left => ([], left)
  | group inner, text =>
      (ways inner text).map fun way => (some (text.take (text.length - way.2.length)) :: way.1, way.2)
  | option inner, text => ways inner text ++ [(List.replicate (groupCount inner) none, text)]
  | append first second, text =>
      (ways first text).flatMap fun way => (ways second way.2).map fun next => (way.1 ++ next.1, next.2)

def fullMatch (e : Regex) (text : Text) : Option (List (Option Text)) :=
  ((ways e text).find? fun way => way.2.isEmpty).map Prod.fst

end Regex

namespace Segments

def compile : Segments → Regex
  | nil => .empty
  | literal text rest => text.foldr (fun c e => .append (.char c) e) (compile rest)
  | parameter _ rest => .append (.group (.run '/')) (compile rest)
  | optional children rest => .append (.option (compile children)) (compile rest)

theorem print_compile (segments : Segments) : segments.compile.print = segments.expression := by
  induction segments with
  | nil => rfl
  | literal text rest ih =>
      simp only [compile, expression_literal, escapeMeta]
      induction text with
      | nil => simpa only [List.foldr_nil, List.flatMap_nil, List.nil_append] using ih
      | cons c text iht =>
          simp only [List.foldr_cons, Regex.print, escapeMeta, iht, List.flatMap_cons, List.flatMap_nil,
            List.append_nil, List.append_assoc]
  | parameter name rest ih => simp [compile, Regex.print, expression_parameter, ih]
  | optional children rest ihc ihr => simp only [compile, Regex.print, expression_optional, ihc, ihr]

theorem groupCount_compile (segments : Segments) : segments.compile.groupCount = segments.groupNames.length := by
  induction segments with
  | nil => rfl
  | literal text rest ih =>
      rw [compile, groupNames]
      induction text with
      | nil => exact ih
      | cons c text iht => rw [List.foldr_cons, Regex.groupCount, iht, Regex.groupCount, Nat.zero_add]
  | parameter name rest ih =>
      simp only [compile, Regex.groupCount, groupNames, List.length_cons, ih]
      omega
  | optional children rest ihc ihr =>
      simp only [compile, Regex.groupCount, groupNames, List.length_append, ihc, ihr]

/-- The captures of groups with these names on top of those already known; nothing when two texts of one
name differ. -/
def nameGroups (known : Captures) : List Text → List (Option Text) → Option Captures
  | _ :: names, none :: groups => nameGroups known names groups
  | name :: names, some text :: groups =>
      match known.lookup name with
      | none => nameGroups (known ++ [(name, text)]) names groups
      | some earlier => if earlier = text then nameGroups known names groups else none
  | _, _ => some known

/-! ## Ways and readings -/

def Follows (names : List Text) (way : Regex.Way) (reading : Reading) : Prop :=
  way.2 = reading.2 ∧ ∀ known more groups,
    nameGroups known (names ++ more) (way.1 ++ groups) =
      (capturesFrom known reading.1).bind fun captures => nameGroups captures more groups

theorem nameGroups_none (known : Captures) (names more : List Text) (groups : List (Option Text)) :
    nameGroups known (names ++ more) (List.replicate names.length none ++ groups) =
      nameGroups known more groups := by
  induction names with
  | nil => rfl
  | cons name names ih => simpa [List.replicate_succ, nameGroups] using ih

theorem nameGroups_some (known : Captures) (name text : Text) (names : List Text)
    (groups : List (Option Text)) :
    nameGroups known (name :: names) (some text :: groups) =
      (capturesFrom known [.capture name text]).bind fun captures => nameGroups captures names groups := by
  rw [nameGroups]
  cases found : known.lookup name with
  | none => rw [capturesFrom_new found]; rfl
  | some earlier =>
      by_cases same : earlier = text
      · subst same
        rw [capturesFrom_again found]
        simp [capturesFrom]
      · rw [capturesFrom_other found same]
        simp [same]

theorem capturesFrom_append (first second : List Choice) : ∀ known : Captures,
    capturesFrom known (first ++ second) =
      (capturesFrom known first).bind fun captures => capturesFrom captures second := by
  induction first with
  | nil => intro known; rfl
  | cons choice first ih =>
      intro known
      cases choice with
      | take => exact ih known
      | skip => exact ih known
      | capture name text =>
          rw [List.cons_append]
          rcases capturesFrom_cases known name text with refused | ⟨grown, _, step⟩
          · rw [(refused _).1, (refused _).1, Option.bind_none]
          · rw [(step _).1, (step _).1, ih]

theorem Follows.append {names others : List Text} {way next : Regex.Way} {reading later : Reading}
    (h : Follows names way reading) (hn : Follows others next later) :
    Follows (names ++ others) (way.1 ++ next.1, next.2) (Reading.after reading.1 later) := by
  refine ⟨hn.1, fun known more groups => ?_⟩
  simp only [Reading.after]
  rw [List.append_assoc, List.append_assoc, h.2, capturesFrom_append, Option.bind_assoc]
  congr 1
  funext captures
  exact hn.2 captures more groups

theorem follows_map_append {names others : List Text} {way : Regex.Way} {reading : Reading}
    (h : Follows names way reading) {next : List Regex.Way} {later : List Reading}
    (hn : List.Forall₂ (Follows others) next later) :
    List.Forall₂ (Follows (names ++ others)) (next.map fun n => (way.1 ++ n.1, n.2))
      (later.map (Reading.after reading.1)) := by
  rw [List.forall₂_map_left_iff, List.forall₂_map_right_iff]
  exact hn.imp fun _ _ hf => h.append hf

theorem ways_literal (text : Text) (e : Regex) : ∀ path : Text,
    (text.foldr (fun c e => Regex.append (.char c) e) e).ways path =
      if text <+: path then e.ways (path.drop text.length) else [] := by
  induction text with
  | nil => intro path; simp
  | cons c text ih =>
      intro path
      rw [List.foldr_cons, Regex.ways, Regex.ways]
      cases path with
      | nil => simp
      | cons d path =>
          by_cases same : d = c
          · simp [same, ih]
          · simp [same, Ne.symm same]

theorem runs_eq_heads (path : Text) : Regex.runs '/' path = (heads path).map Prod.snd := by
  induction path with
  | nil => rfl
  | cons d path ih =>
      by_cases hd : d = '/'
      · simp [Regex.runs, heads, hd]
      · simp [Regex.runs, heads, hd, ih, Function.comp_def]

theorem ways_parameter (path : Text) :
    (Regex.group (.run '/')).ways path = (heads path).map fun head => ([some head.1], head.2) := by
  rw [Regex.ways, Regex.ways, runs_eq_heads, List.map_map, List.map_map]
  refine List.map_congr_left fun head member => ?_
  obtain ⟨text, left⟩ := head
  obtain ⟨_, rfl⟩ := mem_heads.mp member
  simp

/-- The ways of a compiled pattern follow its readings, one by one. -/
theorem ways_compile (segments : Segments) : ∀ path : Text,
    List.Forall₂ (Follows segments.groupNames) (segments.compile.ways path) (readings segments path) := by
  induction segments with
  | nil =>
      intro path
      refine .cons ⟨rfl, fun known more groups => ?_⟩ .nil
      rfl
  | literal text rest ih =>
      intro path
      rw [compile, ways_literal, readings]
      split
      · exact ih _
      · exact .nil
  | parameter name rest ih =>
      intro path
      have head_follows : ∀ head : Text × Text,
          Follows [name] ([some head.1], head.2) ([.capture name head.1], head.2) :=
        fun head => ⟨rfl, fun known more groups => nameGroups_some known name head.1 more groups⟩
      have same : List.Forall₂ Eq (heads path) (heads path) := List.forall₂_refl _
      rw [compile, Regex.ways, ways_parameter, readings, List.flatMap_map]
      refine List.rel_flatMap same ?_
      rintro head _ rfl
      exact follows_map_append (head_follows head) (ih head.2)
  | optional children rest ihc ihr =>
      intro path
      have take_follows : ∀ {way : Regex.Way} {inner : Reading}, Follows children.groupNames way inner →
          Follows children.groupNames way (.take :: inner.1, inner.2) := fun h => ⟨h.1, h.2⟩
      have skip_follows : Follows children.groupNames
          (List.replicate children.compile.groupCount none, path) ([.skip], path) := by
        refine ⟨rfl, fun known more groups => ?_⟩
        rw [groupCount_compile]
        exact nameGroups_none known children.groupNames more groups
      rw [compile, Regex.ways, Regex.ways, readings, List.flatMap_append, List.flatMap_singleton]
      refine List.rel_append ?_ (follows_map_append skip_follows (ihr path))
      refine List.rel_flatMap (ihc path) ?_
      rintro ⟨groups, left⟩ ⟨choices, _⟩ h
      obtain rfl := h.1
      exact follows_map_append (take_follows h) (ihr left)

theorem find?_follows {names : List Text} {ways : List Regex.Way} {list : List Reading}
    (h : List.Forall₂ (Follows names) ways list) :
    (ways.find? (fun way => way.2.isEmpty) = none ∧ list.find? (fun reading => reading.2.isEmpty) = none) ∨
      ∃ way reading, ways.find? (fun way => way.2.isEmpty) = some way ∧
        list.find? (fun reading => reading.2.isEmpty) = some reading ∧ Follows names way reading := by
  induction h with
  | nil => exact Or.inl ⟨rfl, rfl⟩
  | @cons way reading ways list follows _ ih =>
      rw [List.find?_cons, List.find?_cons, follows.1]
      cases reading.2.isEmpty with
      | true => exact Or.inr ⟨way, reading, rfl, rfl, follows⟩
      | false => exact ih

theorem captures?_eq_nameGroups (segments : Segments) (path : Text) :
    segments.captures? path = (segments.compile.fullMatch path).bind (nameGroups [] segments.groupNames) := by
  rw [captures?, firstReading_eq, Regex.fullMatch]
  rcases find?_follows (ways_compile segments path) with ⟨hw, hr⟩ | ⟨way, reading, hw, hr, follows⟩
  · rw [hw, hr]
    rfl
  · have named := follows.2 [] [] []
    rw [List.append_nil, List.append_nil] at named
    rw [hw, hr, Option.map_some, Option.map_some, Option.bind_some, Option.bind_some, named]
    have unchanged : (fun captures => nameGroups captures [] []) = some := by
      funext captures
      rw [nameGroups]
      all_goals simp
    rw [unchanged, Option.bind_fun_some]

end Segments
end RouteView
