import RouteView.Pattern.Regex

/-!
# The signs of an expression

An expression is read with a backslash making the next character stand for itself (`readSigns`).  What is read is
what was meant (`readSigns_traced`): each character of a literal is a sign that stands for itself, and the rest are
the bare signs of parameters and groups.  Every sign keeps the place of the segment that it was written for.
-/
set_option autoImplicit false
namespace RouteView.Segments

/-! ## Signs -/

inductive Sign
  | bare (c : Char)
  | escaped (c : Char)
deriving DecidableEq

def Sign.ofLiteral (c : Char) : Sign := if c ∈ metacharacters then .escaped c else .bare c

theorem ofLiteral_ne_bare {c d : Char} (special : d ∈ metacharacters) : Sign.ofLiteral c ≠ .bare d := by
  rw [Sign.ofLiteral]
  split
  · exact Sign.noConfusion
  · next plain =>
      intro same
      cases same
      exact plain special

/-- No literal holds a bare metacharacter. -/
theorem bare_not_mem_literal {d : Char} (special : d ∈ metacharacters) (text : Text) :
    .bare d ∉ text.map Sign.ofLiteral := by
  intro member
  obtain ⟨c, _, same⟩ := List.mem_map.mp member
  exact ofLiteral_ne_bare special same

section Reading
variable {α β : Type}

/-- The signs of a text.  A label on a character goes with its sign and is never looked at. -/
def readSigns : List (Char × α) → List (Sign × α)
  | [] => []
  | ('\\', _) :: (c, label) :: rest => (.escaped c, label) :: readSigns rest
  | (c, label) :: rest => (.bare c, label) :: readSigns rest

def labelled (label : β) (items : List α) : List (α × β) := items.map fun item => (item, label)

theorem map_fst_labelled (label : β) (items : List α) : (labelled label items).map Prod.fst = items := by
  simp [labelled, Function.comp_def]

/-- The labels take no part in the reading. -/
theorem readSigns_map (relabel : α → β) (text : List (Char × α)) :
    readSigns (text.map (Prod.map id relabel)) = (readSigns text).map (Prod.map id relabel) := by
  induction text using readSigns.induct with
  | case1 => rfl
  | case2 _ c label rest ih => simp only [List.map_cons, Prod.map_apply, id, readSigns, ih]
  | case3 c label rest lone ih =>
      rw [List.map_cons, Prod.map_apply, id, readSigns, readSigns, ih]
      · rfl
      · exact lone
      · intro d other more same backslash
        cases rest with
        | nil => cases same
        | cons next rest => exact lone next.1 next.2 rest rfl backslash

theorem readSigns_bare {c : Char} (h : c ≠ '\\') (label : α) (rest : List (Char × α)) :
    readSigns ((c, label) :: rest) = (.bare c, label) :: readSigns rest := by
  rw [readSigns]
  exact fun _ _ _ _ backslash => absurd backslash h

/-- Syntax is read as it is written. -/
theorem readSigns_unescaped {text : Text} (h : '\\' ∉ text) (label : α) (rest : List (Char × α)) :
    readSigns (labelled label text ++ rest) = labelled label (text.map .bare) ++ readSigns rest := by
  induction text with
  | nil => rfl
  | cons c text ih =>
      rw [List.mem_cons, not_or] at h
      have later := ih h.2
      simp only [labelled, List.map_cons, List.cons_append] at later ⊢
      rw [readSigns_bare (Ne.symm h.1), later]

/-- A literal is read as its characters, each one standing for itself. -/
theorem readSigns_literal (text : Text) (label : α) (rest : List (Char × α)) :
    readSigns (labelled label (escapeMeta text) ++ rest) = labelled label (text.map .ofLiteral) ++ readSigns rest := by
  induction text with
  | nil => rfl
  | cons c text ih =>
      simp only [labelled, escapeMeta, List.flatMap_cons, List.map_cons, List.map_append, List.append_assoc,
        List.cons_append, Sign.ofLiteral] at ih ⊢
      by_cases special : c ∈ metacharacters
      · simp only [if_pos special, List.map_cons, List.map_nil, List.cons_append, List.nil_append, readSigns, ih]
      · have plain : c ≠ '\\' := by
          rintro rfl
          exact special (by decide)
        simp only [if_neg special, List.map_cons, List.map_nil, List.cons_append, List.nil_append,
          readSigns_bare plain, ih]

end Reading

/-! ## Where a sign comes from -/

/-- A step on the way to a segment: into a group, or past a segment of any kind. -/
inductive Step
  | inside
  | past
deriving DecidableEq

abbrev Place := List Step

def Step.Before (first second : Step) : Prop := first = .inside ∧ second = .past

/-- The order from left to right; a group stands in front of what is inside it. -/
def Place.Before (first second : Place) : Prop := List.Lex Step.Before first second

def at? : Segments → Place → Option Segments
  | segments, [] => some segments
  | literal _ rest, .past :: place => at? rest place
  | parameter _ rest, .past :: place => at? rest place
  | optional _ rest, .past :: place => at? rest place
  | optional children _, .inside :: place => at? children place
  | _, _ => none

def ParameterAt (segments : Segments) (place : Place) (name : Text) : Prop :=
  ∃ rest, segments.at? place = some (parameter name rest)

def GroupAt (segments : Segments) (place : Place) : Prop :=
  ∃ children rest, segments.at? place = some (optional children rest)

/-- The expression of a sequence that begins at a place, each character with the place of the segment that it is
written for. -/
def traced : Place → Segments → List (Char × Place)
  | _, nil => []
  | here, literal text rest => labelled here (escapeMeta text) ++ traced (here ++ [.past]) rest
  | here, parameter _ rest => labelled here "([^/]+)" ++ traced (here ++ [.past]) rest
  | here, optional children rest =>
      labelled here "(?:" ++ traced (here ++ [.inside]) children ++ labelled here ")?" ++ traced (here ++ [.past]) rest

theorem traced_parameter (here : Place) (name : Text) (rest : Segments) :
    traced here (parameter name rest) =
      labelled here ['(', '[', '^', '/', ']', '+', ')'] ++ traced (here ++ [.past]) rest := rfl

theorem traced_optional (here : Place) (children rest : Segments) :
    traced here (optional children rest) = labelled here ['(', '?', ':'] ++ traced (here ++ [.inside]) children ++
      labelled here [')', '?'] ++ traced (here ++ [.past]) rest := rfl

def signs : Place → Segments → List (Sign × Place)
  | _, nil => []
  | here, literal text rest => labelled here (text.map .ofLiteral) ++ signs (here ++ [.past]) rest
  | here, parameter _ rest =>
      labelled here (['(', '[', '^', '/', ']', '+', ')'].map .bare) ++ signs (here ++ [.past]) rest
  | here, optional children rest =>
      labelled here (['(', '?', ':'].map .bare) ++ signs (here ++ [.inside]) children ++
        labelled here ([')', '?'].map .bare) ++ signs (here ++ [.past]) rest

theorem map_fst_traced (segments : Segments) : ∀ (here : Place),
    (traced here segments).map Prod.fst = segments.expression := by
  induction segments with
  | nil => exact fun _ => rfl
  | literal text rest ih =>
      intro here
      rw [traced, List.map_append, map_fst_labelled, ih, expression_literal]
  | parameter name rest ih =>
      intro here
      rw [traced_parameter, List.map_append, map_fst_labelled, ih, expression_parameter]
  | optional children rest ihc ihr =>
      intro here
      simp only [traced_optional, List.map_append, map_fst_labelled, ihc, ihr, expression_optional,
        List.cons_append, List.nil_append]

/-- An expression is read as it is meant. -/
theorem readSigns_traced (segments : Segments) : ∀ (here : Place) (more : List (Char × Place)),
    readSigns (traced here segments ++ more) = signs here segments ++ readSigns more := by
  induction segments with
  | nil => exact fun _ _ => rfl
  | literal text rest ih =>
      intro here more
      rw [traced, List.append_assoc, readSigns_literal, ih, signs, List.append_assoc]
  | parameter name rest ih =>
      intro here more
      rw [traced_parameter, List.append_assoc, readSigns_unescaped (by decide), ih, signs, List.append_assoc]
  | optional children rest ihc ihr =>
      intro here more
      simp only [traced_optional, signs, List.append_assoc]
      rw [readSigns_unescaped (by decide), ihc, readSigns_unescaped (by decide), ihr]

theorem readSigns_eq_signs (segments : Segments) : readSigns (traced [] segments) = signs [] segments := by
  have read := readSigns_traced segments [] []
  rwa [List.append_nil, readSigns, List.append_nil] at read

end RouteView.Segments
