import Mathlib.Data.List.Forall2
import RouteView.Proofs.Pattern.Signs
import RouteView.Proofs.Pattern.WrittenForm

/-!
# The expression of a pattern, read back

Reading an expression gives the signs of its pattern.  Hence the groups that capture are the parameters in the order
in which they stand (`captureOpenings_signs`), all other groups are closed (`opened_signs`), what is read as syntax
belongs to a parameter or a group (`special_signs`), and the source can be told from the expression but for the names
in it (`respell_signs`).  `regex_reads_back` puts this together.
-/
set_option autoImplicit false
namespace RouteView.Segments

/-! ## Groups that capture -/

section Openings
variable {α : Type}

/-- The labels of the bare opening parentheses that are not the start of `(?:`. -/
def captureOpenings : List (Sign × α) → List α
  | [] => []
  | (sign, label) :: rest =>
      if sign = .bare '(' ∧ ¬ [.bare '?', .bare ':'] <+: rest.map Prod.fst then label :: captureOpenings rest
      else captureOpenings rest

theorem captureOpenings_other {items : List Sign} (h : .bare '(' ∉ items) (label : α)
    (more : List (Sign × α)) : captureOpenings (labelled label items ++ more) = captureOpenings more := by
  induction items with
  | nil => rfl
  | cons sign items ih =>
      rw [List.mem_cons, not_or] at h
      have later := ih h.2
      simp only [labelled] at later
      rw [labelled, List.map_cons, List.cons_append, captureOpenings, if_neg fun here => h.1 here.1.symm, later]

theorem captureOpenings_parameter (label : α) (more : List (Sign × α)) :
    captureOpenings (labelled label (['(', '[', '^', '/', ']', '+', ')'].map .bare) ++ more) =
      label :: captureOpenings more := by
  simp [labelled, captureOpenings]

theorem captureOpenings_group (label : α) (more : List (Sign × α)) :
    captureOpenings (labelled label (['(', '?', ':'].map .bare) ++ more) = captureOpenings more := by
  simp [labelled, captureOpenings]

end Openings

def parameterPlaces : Segments → List Place
  | nil => []
  | literal _ rest => (parameterPlaces rest).map (.past :: ·)
  | parameter _ rest => [] :: (parameterPlaces rest).map (.past :: ·)
  | optional children rest =>
      (parameterPlaces children).map (.inside :: ·) ++ (parameterPlaces rest).map (.past :: ·)

theorem captureOpenings_signs (segments : Segments) : ∀ (here : Place) (more : List (Sign × Place)),
    captureOpenings (signs here segments ++ more) =
      (parameterPlaces segments).map (here ++ ·) ++ captureOpenings more := by
  induction segments with
  | nil => exact fun _ _ => rfl
  | literal text rest ih =>
      intro here more
      have plain := bare_not_mem_literal (d := '(') (by decide) text
      rw [signs, List.append_assoc, captureOpenings_other plain, ih, parameterPlaces]
      simp
  | parameter name rest ih =>
      intro here more
      rw [signs, List.append_assoc, captureOpenings_parameter, ih, parameterPlaces]
      simp
  | optional children rest ihc ihr =>
      intro here more
      rw [signs, List.append_assoc, List.append_assoc, List.append_assoc, captureOpenings_group, ihc,
        captureOpenings_other (by decide), ihr, parameterPlaces]
      simp [Function.comp_def]

theorem pairwise_parameterPlaces (segments : Segments) : (parameterPlaces segments).Pairwise Place.Before := by
  have along : ∀ (step : Step) {places : List Place}, places.Pairwise Place.Before →
      (places.map (step :: ·)).Pairwise Place.Before :=
    fun step places ordered => List.pairwise_map.mpr (ordered.imp fun before => .cons before)
  induction segments with
  | nil => exact .nil
  | literal text rest ih => exact along _ ih
  | parameter name rest ih =>
      refine List.pairwise_cons.mpr ⟨fun place member => ?_, along _ ih⟩
      obtain ⟨later, _, rfl⟩ := List.mem_map.mp member
      exact .nil
  | optional children rest ihc ihr =>
      refine List.pairwise_append.mpr ⟨along _ ihc, along _ ihr, fun first inner second outer => ?_⟩
      obtain ⟨_, _, rfl⟩ := List.mem_map.mp inner
      obtain ⟨_, _, rfl⟩ := List.mem_map.mp outer
      exact .rel ⟨rfl, rfl⟩

theorem mem_parameterPlaces {segments : Segments} {name : Text} : ∀ {place : Place},
    segments.ParameterAt place name → place ∈ parameterPlaces segments := by
  induction segments with
  | nil => rintro (_ | ⟨_ | _, place⟩) ⟨rest, found⟩ <;> cases found
  | literal text more ih =>
      rintro (_ | ⟨_ | _, place⟩) ⟨rest, found⟩
      · cases found
      · cases found
      · exact List.mem_map_of_mem (ih ⟨rest, found⟩)
  | parameter first more ih =>
      rintro (_ | ⟨_ | _, place⟩) ⟨rest, found⟩
      · exact List.mem_cons_self
      · cases found
      · exact List.mem_cons_of_mem _ (List.mem_map_of_mem (ih ⟨rest, found⟩))
  | optional children more ihc ihr =>
      rintro (_ | ⟨_ | _, place⟩) ⟨rest, found⟩
      · cases found
      · exact List.mem_append_left _ (List.mem_map_of_mem (ihc ⟨rest, found⟩))
      · exact List.mem_append_right _ (List.mem_map_of_mem (ihr ⟨rest, found⟩))

theorem forall₂_parameterPlaces (segments : Segments) :
    List.Forall₂ segments.ParameterAt (parameterPlaces segments) segments.groupNames := by
  induction segments with
  | nil => exact .nil
  | literal text rest ih => exact List.forall₂_map_left_iff.mpr ih
  | parameter name rest ih => exact .cons ⟨rest, rfl⟩ (List.forall₂_map_left_iff.mpr ih)
  | optional children rest ihc ihr =>
      have inner : List.Forall₂ (optional children rest).ParameterAt ((parameterPlaces children).map (.inside :: ·))
          children.groupNames := List.forall₂_map_left_iff.mpr ihc
      have outer : List.Forall₂ (optional children rest).ParameterAt ((parameterPlaces rest).map (.past :: ·))
          rest.groupNames := List.forall₂_map_left_iff.mpr ihr
      exact List.rel_append inner outer

/-! ## Groups that close -/

inductive Paired : List Sign → Prop
  | nil : Paired []
  | other {sign : Sign} {rest : List Sign} : sign ≠ .bare '(' → sign ≠ .bare ')' → Paired rest → Paired (sign :: rest)
  | pair {inside rest : List Sign} : Paired inside → Paired rest → Paired (.bare '(' :: (inside ++ .bare ')' :: rest))

theorem Paired.append {first second : List Sign} (h : Paired first) (later : Paired second) :
    Paired (first ++ second) := by
  induction h with
  | nil => exact later
  | other opens closes _ ih => exact .other opens closes ih
  | pair inside _ _ ih =>
      rw [List.cons_append, List.append_assoc, List.cons_append]
      exact .pair inside ih

theorem paired_other {items : List Sign} (opens : .bare '(' ∉ items) (closes : .bare ')' ∉ items) : Paired items := by
  induction items with
  | nil => exact .nil
  | cons sign items ih =>
      rw [List.mem_cons, not_or] at opens closes
      exact .other (Ne.symm opens.1) (Ne.symm closes.1) (ih opens.2 closes.2)

theorem paired_signs (segments : Segments) : ∀ (here : Place), Paired ((signs here segments).map Prod.fst) := by
  induction segments with
  | nil => exact fun _ => .nil
  | literal text rest ih =>
      intro here
      rw [signs, List.map_append, map_fst_labelled]
      have plain : Paired (text.map .ofLiteral) :=
        paired_other (bare_not_mem_literal (by decide) text) (bare_not_mem_literal (by decide) text)
      exact plain.append (ih _)
  | parameter name rest ih =>
      intro here
      have inside : Paired (['[', '^', '/', ']', '+'].map .bare) := paired_other (by decide) (by decide)
      rw [signs, List.map_append, map_fst_labelled]
      exact .pair inside (ih _)
  | optional children rest ihc ihr =>
      intro here
      have mark : Paired (['?', ':'].map .bare) := paired_other (by decide) (by decide)
      have after : Paired (.bare '?' :: (signs (here ++ [.past]) rest).map Prod.fst) :=
        .other (by decide) (by decide) (ihr _)
      simp only [signs, List.map_append, map_fst_labelled]
      simpa using Paired.pair (mark.append (ihc (here ++ [.inside]))) after

/-- What follows a bare opening parenthesis that was written for the segment at `place`. -/
inductive Opens (place : Place) : List (Sign × Place) → Prop
  | capture (more : List (Sign × Place)) : Opens place ((.bare '[', place) :: more)
  | group {inside : List (Sign × Place)} (more : List (Sign × Place)) : Paired (inside.map Prod.fst) →
      Opens place ((.bare '?', place) :: (.bare ':', place) ::
        (inside ++ (.bare ')', place) :: (.bare '?', place) :: more))

theorem Opens.append {place : Place} {after : List (Sign × Place)} (h : Opens place after)
    (more : List (Sign × Place)) : Opens place (after ++ more) := by
  cases h with
  | capture => exact .capture _
  | group later paired =>
      simp only [List.cons_append, List.append_assoc]
      exact .group _ paired

def Opened (items : List (Sign × Place)) : Prop :=
  ∀ before place after, items = before ++ (.bare '(', place) :: after → Opens place after

theorem Opened.append {first second : List (Sign × Place)} (h : Opened first) (later : Opened second) :
    Opened (first ++ second) := by
  intro before place after split
  rcases List.append_eq_append_iff.mp split with ⟨front, _, tail⟩ | ⟨front, head, tail⟩
  · exact later front place after tail
  · cases front with
    | nil => exact later [] place after tail.symm
    | cons sign front =>
        obtain ⟨rfl, rfl⟩ := List.cons.inj tail
        exact (h before place front head).append second

theorem Opened.cons {sign : Sign} {place : Place} {items : List (Sign × Place)}
    (here : sign = .bare '(' → Opens place items) (later : Opened items) : Opened ((sign, place) :: items) := by
  intro before other after split
  cases before with
  | nil =>
      cases split
      exact here rfl
  | cons first before =>
      obtain ⟨rfl, tail⟩ := List.cons.inj split
      exact later before other after tail

theorem opened_other {items : List Sign} (h : .bare '(' ∉ items) (label : Place) : Opened (labelled label items) := by
  rintro before place after split
  have member : (.bare '(', place) ∈ labelled label items := by
    rw [split]
    exact List.mem_append_right _ List.mem_cons_self
  obtain ⟨sign, inside, same⟩ := List.mem_map.mp member
  cases same
  exact absurd inside h

theorem opened_signs (segments : Segments) : ∀ (here : Place), Opened (signs here segments) := by
  induction segments with
  | nil =>
      rintro here before place after split
      simp [signs] at split
  | literal text rest ih =>
      intro here
      exact (opened_other (bare_not_mem_literal (by decide) text) here).append (ih _)
  | parameter name rest ih =>
      intro here
      have inside : Opened (labelled here (['[', '^', '/', ']', '+', ')'].map .bare)) := opened_other (by decide) here
      exact .cons (fun _ => .capture _) (inside.append (ih _))
  | optional children rest ihc ihr =>
      intro here
      have mark : Opened (labelled here (['?', ':'].map .bare)) := opened_other (by decide) here
      have close : Opened (labelled here ([')', '?'].map .bare)) := opened_other (by decide) here
      have inside := paired_signs children (here ++ [.inside])
      have follows := ((mark.append (ihc (here ++ [.inside]))).append close).append (ihr (here ++ [.past]))
      refine .cons (fun _ => ?_) follows
      have closed : Opens here _ := .group (signs (here ++ [.past]) rest) inside
      simpa [labelled] using closed

/-! ## Signs of literals -/

theorem special_signs {segments : Segments} {c : Char} (special : c ∈ metacharacters) : ∀ {here place : Place},
    (.bare c, place) ∈ signs here segments →
      ∃ path, place = here ++ path ∧ ((∃ name, segments.ParameterAt path name) ∨ segments.GroupAt path) := by
  have own : ∀ {here place : Place} {items : List Sign}, (.bare c, place) ∈ labelled here items →
      place = here ++ [] := by
    intro here place items member
    obtain ⟨sign, _, same⟩ := List.mem_map.mp member
    cases same
    exact (List.append_nil _).symm
  induction segments with
  | nil => exact fun member => absurd member List.not_mem_nil
  | literal text rest ih =>
      intro here place member
      rcases List.mem_append.mp member with inside | later
      · obtain ⟨sign, plain, same⟩ := List.mem_map.mp inside
        cases same
        exact absurd plain (bare_not_mem_literal special text)
      · obtain ⟨path, rfl, found⟩ := ih later
        exact ⟨.past :: path, by simp, found⟩
  | parameter name rest ih =>
      intro here place member
      rcases List.mem_append.mp member with inside | later
      · exact ⟨[], own inside, Or.inl ⟨name, rest, rfl⟩⟩
      · obtain ⟨path, rfl, found⟩ := ih later
        exact ⟨.past :: path, by simp, found⟩
  | optional children rest ihc ihr =>
      intro here place member
      simp only [signs, List.mem_append] at member
      rcases member with ((opening | inside) | closing) | later
      · exact ⟨[], own opening, Or.inr ⟨children, rest, rfl⟩⟩
      · obtain ⟨path, rfl, found⟩ := ihc inside
        exact ⟨.inside :: path, by simp, found⟩
      · exact ⟨[], own closing, Or.inr ⟨children, rest, rfl⟩⟩
      · obtain ⟨path, rfl, found⟩ := ihr later
        exact ⟨.past :: path, by simp, found⟩

/-! ## The source of an expression -/

def anonymous : Segments → Segments
  | nil => nil
  | literal text rest => literal text (anonymous rest)
  | parameter _ rest => parameter ['x'] (anonymous rest)
  | optional children rest => optional (anonymous children) (anonymous rest)

theorem expression_anonymous (segments : Segments) : segments.anonymous.expression = segments.expression := by
  induction segments with
  | nil => rfl
  | literal text rest ih => simp only [anonymous, expression_literal, ih]
  | parameter name rest ih => simp only [anonymous, expression_parameter, ih]
  | optional children rest ihc ihr => simp only [anonymous, expression_optional, ihc, ihr]

theorem canonical_anonymous {segments : Segments} (h : segments.Canonical) : segments.anonymous.Canonical := by
  have literal_anonymous : ∀ segments : Segments, segments.anonymous.startsLiteral = segments.startsLiteral := by
    intro segments
    cases segments <;> rfl
  have word_anonymous : ∀ segments : Segments, segments.anonymous.startsWord = segments.startsWord := by
    intro segments
    cases segments with
    | literal text rest => cases text <;> rfl
    | _ => rfl
  induction segments with
  | nil => trivial
  | literal text rest ih =>
      obtain ⟨plain, other, later⟩ := h
      exact ⟨plain, (literal_anonymous rest).trans other, ih later⟩
  | parameter name rest ih =>
      obtain ⟨_, next, later⟩ := h
      exact ⟨⟨'x', [], rfl, by decide, by simp⟩, (word_anonymous rest).trans next, ih later⟩
  | optional children rest ihc ihr => exact ⟨ihc h.1, ihr h.2⟩

def Sign.char : Sign → Char
  | bare c => c
  | escaped c => c

theorem char_ofLiteral (c : Char) : (Sign.ofLiteral c).char = c := by
  rw [Sign.ofLiteral]
  split <;> rfl

/-- The source of an expression whose parameters are all called `x`, after `skip` signs that belong to the segment
in front of them. -/
def respell : Nat → List Sign → Text
  | _, [] => []
  | skip + 1, _ :: rest => respell skip rest
  | 0, sign :: rest =>
      if sign = .bare '(' then
        if rest.head? = some (.bare '?') then '[' :: respell 2 rest else ':' :: 'x' :: respell 6 rest
      else if sign = .bare ')' then ']' :: respell 1 rest
      else sign.char :: respell 0 rest

theorem respell_literal (text : Text) (more : List Sign) :
    respell 0 (text.map .ofLiteral ++ more) = text ++ respell 0 more := by
  induction text with
  | nil => rfl
  | cons c text ih =>
      rw [List.map_cons, List.cons_append, respell, if_neg (ofLiteral_ne_bare (by decide)),
        if_neg (ofLiteral_ne_bare (by decide)), char_ofLiteral, ih, List.cons_append]

/-- The signs of a pattern spell its source, but for the names. -/
theorem respell_signs (segments : Segments) : ∀ (here : Place) (more : List Sign),
    respell 0 ((signs here segments).map Prod.fst ++ more) = segments.anonymous.print ++ respell 0 more := by
  induction segments with
  | nil => exact fun _ _ => rfl
  | literal text rest ih =>
      intro here more
      rw [signs, List.map_append, map_fst_labelled, List.append_assoc, respell_literal, ih, anonymous, print,
        List.append_assoc]
  | parameter name rest ih =>
      intro here more
      rw [signs, List.map_append, map_fst_labelled, List.append_assoc]
      exact congrArg (fun text => ':' :: 'x' :: text) (ih _ _)
  | optional children rest ihc ihr =>
      intro here more
      have closing : respell 0 ([')', '?'].map .bare ++ ((signs (here ++ [.past]) rest).map Prod.fst ++ more)) =
          ']' :: (rest.anonymous.print ++ respell 0 more) := congrArg (']' :: ·) (ihr _ _)
      have inside := ihc (here ++ [.inside])
        ([')', '?'].map .bare ++ ((signs (here ++ [.past]) rest).map Prod.fst ++ more))
      rw [closing] at inside
      simp only [signs, List.map_append, map_fst_labelled, List.append_assoc, anonymous, print, List.cons_append]
      exact congrArg ('[' :: ·) inside

theorem signs_of_expression (segments : Segments) :
    (signs [] segments).map Prod.fst = (readSigns (labelled () segments.expression)).map Prod.fst := by
  have text : labelled () segments.expression = (traced [] segments).map (Prod.map id fun _ => ()) := by
    rw [← map_fst_traced segments [], labelled, List.map_map]
    rfl
  rw [text, readSigns_map, readSigns_eq_signs, List.map_map]
  rfl

theorem anonymous_eq_of_expression_eq {segments other : Segments} (canonical : segments.Canonical)
    (others : other.Canonical) (same : segments.expression = other.expression) :
    segments.anonymous = other.anonymous := by
  have signs_eq : (signs [] segments).map Prod.fst = (signs [] other).map Prod.fst := by
    rw [signs_of_expression, signs_of_expression, same]
  have spelled : ∀ segments : Segments, respell 0 ((signs [] segments).map Prod.fst) = segments.anonymous.print := by
    intro segments
    have whole := respell_signs segments [] []
    rwa [List.append_nil, respell, List.append_nil] at whole
  have written : segments.anonymous.print = other.anonymous.print := by rw [← spelled, ← spelled, signs_eq]
  have read := parse_eq_ok.mpr ⟨canonical_anonymous canonical, rfl⟩
  rw [written, parse_eq_ok.mpr ⟨canonical_anonymous others, rfl⟩] at read
  exact (Except.ok.inj read).symm

/-- In the expression of a pattern, read with a backslash making the next character stand for itself, the groups that
capture are the parameters from left to right and the names recorded for them are theirs, all other groups are closed,
and nothing of a literal is syntax.  Two sources have the same expression exactly when their segments are equal up to
the names of parameters. -/
theorem regex_reads_back (segments : Segments) :
    segments.regex = '^' :: (traced [] segments).map Prod.fst ++ ['$'] ∧
    (List.Forall₂ segments.ParameterAt (captureOpenings (readSigns (traced [] segments))) segments.groupNames ∧
      (captureOpenings (readSigns (traced [] segments))).Pairwise Place.Before ∧
      ∀ place name, segments.ParameterAt place name → place ∈ captureOpenings (readSigns (traced [] segments))) ∧
    (∀ before place second third after, readSigns (traced [] segments) =
        before ++ (.bare '(', place) :: (.bare '?', second) :: (.bare ':', third) :: after →
      ∃ inside rest, after = inside ++ (.bare ')', place) :: (.bare '?', place) :: rest ∧
        Paired (inside.map Prod.fst)) ∧
    (∀ c place, (.bare c, place) ∈ readSigns (traced [] segments) → c ∈ metacharacters →
      (∃ name, segments.ParameterAt place name) ∨ segments.GroupAt place) ∧
    ∀ source another other, parse source = .ok segments → parse another = .ok other →
      (segments.regex = other.regex ↔ segments.anonymous = other.anonymous) := by
  have openings : captureOpenings (signs [] segments) = parameterPlaces segments := by
    have all := captureOpenings_signs segments [] []
    simpa [captureOpenings] using all
  rw [readSigns_eq_signs, openings]
  refine ⟨by rw [map_fst_traced, regex],
    ⟨forall₂_parameterPlaces segments, pairwise_parameterPlaces segments, fun _ _ => mem_parameterPlaces⟩, ?_, ?_, ?_⟩
  · intro before place second third after split
    cases opened_signs segments [] before place _ split with
    | group rest paired => exact ⟨_, rest, rfl, paired⟩
  · intro c place member special
    obtain ⟨path, rfl, found⟩ := special_signs special member
    exact found
  · intro source another other parsed parsed_other
    constructor
    · intro same
      have same_expression : segments.expression = other.expression :=
        List.append_cancel_right (List.cons.inj same).2
      exact anonymous_eq_of_expression_eq (parse_eq_ok.mp parsed).1 (parse_eq_ok.mp parsed_other).1 same_expression
    · intro same
      rw [regex, regex, ← expression_anonymous segments, same, expression_anonymous]

/-- Escaped parentheses in and around a group. -/
theorem regex_reads_back_escaped :
    ∃ segments other, parse "/\\(:a[?:(:b)])" = .ok segments ∧ parse "/\\(:id[?:(:to)])" = .ok other ∧
      captureOpenings (readSigns (traced [] segments)) = [[.past], [.past, .past, .inside, .past]] ∧
      List.Forall₂ segments.ParameterAt [[.past], [.past, .past, .inside, .past]] [['a'], ['b']] ∧
      segments.anonymous = other.anonymous ∧ segments.regex = other.regex := by
  refine ⟨.literal ['/', '\\', '('] (.parameter ['a'] (.optional (.literal ['?', ':', '('] (.parameter ['b']
      (.literal [')'] .nil))) (.literal [')'] .nil))),
    .literal ['/', '\\', '('] (.parameter ['i', 'd'] (.optional (.literal ['?', ':', '('] (.parameter ['t', 'o']
      (.literal [')'] .nil))) (.literal [')'] .nil))), rfl, rfl, rfl, ?_, rfl, ?_⟩
  · exact (regex_reads_back _).2.1.1
  · exact ((regex_reads_back _).2.2.2.2 "/\\(:a[?:(:b)])" "/\\(:id[?:(:to)])" _ rfl rfl).mpr rfl

end RouteView.Segments
