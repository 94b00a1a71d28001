import RouteView.Template.Evaluation

/-!
# The spans of a template

A source is a sequence of spans: texts in which no tag opens, and tags that end where they are first closed.
`Divides` says so of spans in front of the rest of a source.  Every source is divided up to its end or to a tag
that is never closed (`exists_divides`), the tokens are those of the spans (`tokenize_written`), and there is only
one way to divide a whole source (`divides_unique`).
-/
set_option autoImplicit false
namespace RouteView.Template

/-- A stretch of a source: a text, or a tag with all that stands between its opener and its closer. -/
inductive Span
  | text (t : Text)
  | tag (kind : Tag) (raw : Text)

def Span.written : Span → Text
  | text t => t
  | tag kind raw => kind.opener ++ raw ++ kind.closer

def Span.token : Span → Token
  | text t => .text t
  | tag kind raw => kind.token raw

def written (spans : List Span) : Text := spans.flatMap Span.written

def Opens (source : Text) : Prop := ∃ tag : Tag, tag.opener <+: source

def Tag.Closes (tag : Tag) (source : Text) : Prop := tag.closer <+: source

def Nowhere (Begins : Text → Prop) (n : Nat) (source : Text) : Prop := ∀ k < n, ¬ Begins (source.drop k)

/-- A source that begins with these spans and goes on with `rest` is divided into them as far as they reach: no tag
opens inside a text, which is not empty and has no other text next to it, and a tag is closed for the first time
where its span ends. -/
def Divides (rest : Text) : List Span → Prop
  | [] => True
  | .text t :: spans => t ≠ [] ∧ (∀ u, spans.head? ≠ some (.text u)) ∧
      Nowhere Opens t.length (t ++ (written spans ++ rest)) ∧ Divides rest spans
  | .tag kind raw :: spans =>
      Nowhere kind.Closes raw.length (raw ++ (kind.closer ++ (written spans ++ rest))) ∧ Divides rest spans

/-! ## The first opener and the first closer -/

theorem nowhere_zero {Begins : Text → Prop} {source : Text} : Nowhere Begins 0 source := by
  intro k inside
  exact absurd inside (Nat.not_lt_zero k)

theorem nowhere_cons {Begins : Text → Prop} {n : Nat} {c : Char} {rest : Text} :
    Nowhere Begins (n + 1) (c :: rest) ↔ ¬ Begins (c :: rest) ∧ Nowhere Begins n rest := by
  constructor
  · intro h
    exact ⟨h 0 (Nat.succ_pos n), fun k inside => h (k + 1) (Nat.succ_lt_succ inside)⟩
  · rintro ⟨here, later⟩ k inside
    cases k with
    | zero => exact here
    | succ k => exact later k (Nat.lt_of_succ_lt_succ inside)

/-- What cuts a source at the first place where something begins, and returns the text in front of that place. -/
structure Cuts {β : Type} (Begins : Text → Prop) (cut : Text → Option (Text × β)) : Prop where
  nil : cut [] = none
  here : ∀ source, Begins source → ∃ after, cut source = some ([], after)
  later : ∀ c rest, ¬ Begins (c :: rest) →
    cut (c :: rest) = (cut rest).map fun (before, after) => (c :: before, after)

section Cuts
variable {β : Type} {Begins : Text → Prop} {cut : Text → Option (Text × β)}

theorem Cuts.append (h : Cuts Begins cut) {before rest : Text} {after : β} (found : cut rest = some ([], after))
    (nowhere : Nowhere Begins before.length (before ++ rest)) : cut (before ++ rest) = some (before, after) := by
  induction before with
  | nil => exact found
  | cons c before ih =>
      rw [List.cons_append] at nowhere ⊢
      obtain ⟨here, later⟩ := nowhere_cons.mp nowhere
      rw [h.later c _ here, ih later]
      rfl

theorem Cuts.eq_none (h : Cuts Begins cut) {source : Text} (nowhere : Nowhere Begins source.length source) :
    cut source = none := by
  induction source with
  | nil => exact h.nil
  | cons c rest ih =>
      obtain ⟨here, later⟩ := nowhere_cons.mp nowhere
      rw [h.later c _ here, ih later]
      rfl

/-- Nothing begins before the place where a source is cut, or anywhere when it is not cut. -/
theorem Cuts.nowhere (h : Cuts Begins cut) (source : Text) :
    Nowhere Begins ((cut source).elim source Prod.fst).length source := by
  induction source with
  | nil =>
      rw [h.nil]
      exact nowhere_zero
  | cons c rest ih =>
      by_cases here : Begins (c :: rest)
      · obtain ⟨after, found⟩ := h.here _ here
        rw [found]
        exact nowhere_zero
      · rw [h.later c rest here]
        cases found : cut rest with
        | none =>
            rw [found] at ih
            exact nowhere_cons.mpr ⟨here, ih⟩
        | some parts =>
            rw [found] at ih
            exact nowhere_cons.mpr ⟨here, ih⟩

end Cuts

theorem cutOpener_opener (tag : Tag) (rest : Text) : cutOpener (tag.opener ++ rest) = some ([], tag, rest) := by
  cases tag with
  | reference => rfl
  | comment => rfl

theorem cuts_cutOpener : Cuts Opens cutOpener where
  nil := rfl
  here := by
    rintro _ ⟨tag, after, rfl⟩
    exact ⟨(tag, after), cutOpener_opener tag after⟩
  later c rest h := by
    have shut : ∀ tag : Tag, ¬ tag.opener.isPrefixOf (c :: rest) = true :=
      fun tag opener => h ⟨tag, List.isPrefixOf_iff_prefix.mp opener⟩
    rw [cutOpener, if_neg (shut .reference), if_neg (shut .comment)]

theorem cutCloser_closer (tag : Tag) (rest : Text) : tag.cutCloser (tag.closer ++ rest) = some ([], rest) := by
  cases tag with
  | reference => rfl
  | comment => rfl

theorem cuts_cutCloser (tag : Tag) : Cuts tag.Closes tag.cutCloser where
  nil := rfl
  here := by
    rintro _ ⟨after, rfl⟩
    exact ⟨after, cutCloser_closer tag after⟩
  later c rest h := by
    rw [Tag.cutCloser, if_neg (mt List.isPrefixOf_iff_prefix.mp h)]

theorem cutOpener_append {before : Text} {tag : Tag} {rest : Text}
    (h : Nowhere Opens before.length (before ++ (tag.opener ++ rest))) :
    cutOpener (before ++ (tag.opener ++ rest)) = some (before, tag, rest) :=
  cuts_cutOpener.append (cutOpener_opener tag rest) h

theorem cutCloser_append {tag : Tag} {raw rest : Text}
    (h : Nowhere tag.Closes raw.length (raw ++ (tag.closer ++ rest))) :
    tag.cutCloser (raw ++ (tag.closer ++ rest)) = some (raw, rest) :=
  (cuts_cutCloser tag).append (cutCloser_closer tag rest) h

/-! ## One span after another -/

/-- What is left after a tag is shorter than the source. -/
theorem length_cut {source before after raw rest : Text} {tag : Tag}
    (opened : cutOpener source = some (before, tag, after)) (closed : tag.cutCloser after = some (raw, rest)) :
    rest.length < source.length := by
  have openers : 0 < tag.opener.length := by cases tag <;> decide
  rw [cutOpener_eq_some opened, Tag.cutCloser_eq_some closed]
  simp only [List.length_append]
  omega

theorem tokensWithin_succ {fuel : Nat} : ∀ {source : Text}, source.length ≤ fuel →
    tokensWithin (fuel + 1) source = tokensWithin fuel source := by
  induction fuel with
  | zero =>
      intro source enough
      obtain rfl : source = [] := List.eq_nil_of_length_eq_zero (Nat.le_zero.mp enough)
      rfl
  | succ fuel ih =>
      intro source enough
      rw [tokensWithin, tokensWithin]
      cases opened : cutOpener source with
      | none => rfl
      | some parts =>
          obtain ⟨before, tag, after⟩ := parts
          cases closed : tag.cutCloser after with
          | none => simp only [closed]
          | some parts =>
              obtain ⟨raw, rest⟩ := parts
              have shorter := length_cut opened closed
              have left : rest.length ≤ fuel := by omega
              simp only [closed, ih left]

theorem tokensWithin_eq {source : Text} {fuel : Nat} (enough : source.length ≤ fuel) :
    tokensWithin fuel source = tokenize source := by
  obtain ⟨more, rfl⟩ := Nat.le.dest enough
  induction more with
  | zero => rfl
  | succ more ih => rw [← Nat.add_assoc, tokensWithin_succ (Nat.le_add_right ..), ih (Nat.le_add_right ..)]

/-- The tokens of a source without its measure. -/
theorem tokenize_eq (source : Text) : tokenize source =
    match cutOpener source with
    | none => .ok (textToken source)
    | some (before, tag, after) =>
        match tag.cutCloser after with
        | none => .error tag
        | some (raw, rest) => (tokenize rest).map fun tokens => textToken before ++ tag.token raw :: tokens := by
  rw [← tokensWithin_eq (Nat.le_succ source.length), tokensWithin]
  cases opened : cutOpener source with
  | none => rfl
  | some parts =>
      obtain ⟨before, tag, after⟩ := parts
      cases closed : tag.cutCloser after with
      | none => simp only [closed]
      | some parts =>
          obtain ⟨raw, rest⟩ := parts
          simp only [closed, tokensWithin_eq (Nat.le_of_lt (length_cut opened closed))]
          cases tokenize rest with
          | error other => rfl
          | ok tokens => rfl

theorem written_cons (span : Span) (spans : List Span) : written (span :: spans) = span.written ++ written spans :=
  List.flatMap_cons

theorem written_tag (kind : Tag) (raw : Text) (spans : List Span) (rest : Text) :
    written (.tag kind raw :: spans) ++ rest = kind.opener ++ (raw ++ (kind.closer ++ (written spans ++ rest))) := by
  simp only [written_cons, Span.written, List.append_assoc]

theorem written_text (t : Text) (spans : List Span) (rest : Text) :
    written (.text t :: spans) ++ rest = t ++ (written spans ++ rest) := by
  simp only [written_cons, Span.written, List.append_assoc]

theorem textToken_of_ne {t : Text} (nonempty : t ≠ []) : textToken t = [.text t] := if_neg nonempty

/-- A text in front of a tag, or of the end, is one token more. -/
theorem tokenize_text {t rest : Text} (nonempty : t ≠ []) (h : Nowhere Opens t.length (t ++ rest))
    (boundary : rest = [] ∨ Opens rest) : tokenize (t ++ rest) = (tokenize rest).map (.text t :: ·) := by
  rcases boundary with rfl | ⟨tag, after, rfl⟩
  · rw [List.append_nil] at h ⊢
    rw [tokenize_eq, cuts_cutOpener.eq_none h]
    simp only [textToken_of_ne nonempty]
    rfl
  · rw [tokenize_eq, cutOpener_append h, tokenize_eq (tag.opener ++ after), cutOpener_opener]
    cases closed : tag.cutCloser after with
    | none =>
        simp only [closed]
        rfl
    | some parts =>
        obtain ⟨raw, rest⟩ := parts
        simp only [closed, textToken_of_ne nonempty]
        cases tokenize rest with
        | error other => rfl
        | ok tokens => rfl

theorem tokenize_tag {kind : Tag} {raw rest : Text}
    (h : Nowhere kind.Closes raw.length (raw ++ (kind.closer ++ rest))) :
    tokenize (kind.opener ++ (raw ++ (kind.closer ++ rest))) = (tokenize rest).map (kind.token raw :: ·) := by
  rw [tokenize_eq, cutOpener_opener]
  simp only [cutCloser_append h]
  rfl

/-- A text is followed by a tag or by what is left. -/
theorem opens_of_divides {spans : List Span} {rest : Text} (boundary : rest = [] ∨ Opens rest)
    (h : ∀ u, spans.head? ≠ some (.text u)) : written spans ++ rest = [] ∨ Opens (written spans ++ rest) := by
  cases spans with
  | nil => exact boundary
  | cons span spans =>
      cases span with
      | text u => exact absurd rfl (h u)
      | tag kind raw =>
          rw [written_tag]
          exact Or.inr ⟨kind, List.prefix_append ..⟩

theorem tokenize_written {spans : List Span} {rest : Text} (boundary : rest = [] ∨ Opens rest) :
    Divides rest spans → tokenize (written spans ++ rest) = (tokenize rest).map (spans.map Span.token ++ ·) := by
  have mapped : ∀ (token : Token) (tokens : List Token),
      ((tokenize rest).map (tokens ++ ·)).map (token :: ·) = (tokenize rest).map (token :: tokens ++ ·) := by
    intro token tokens
    cases tokenize rest with
    | error tag => rfl
    | ok more => rfl
  induction spans with
  | nil =>
      intro _
      cases found : tokenize rest with
      | error tag => exact found
      | ok tokens => exact found
  | cons span spans ih =>
      cases span with
      | text t =>
          rintro ⟨nonempty, next, nowhere, later⟩
          rw [written_text, tokenize_text nonempty nowhere (opens_of_divides boundary next), ih later, mapped]
          rfl
      | tag kind raw =>
          rintro ⟨nowhere, later⟩
          rw [written_tag, tokenize_tag nowhere, ih later, mapped]
          rfl

/-! ## Dividing a source -/

def textSpan (t : Text) : List Span := if t = [] then [] else [.text t]

theorem divides_textSpan {t : Text} {spans : List Span} {rest : Text} (next : ∀ u, spans.head? ≠ some (.text u))
    (nowhere : Nowhere Opens t.length (t ++ (written spans ++ rest))) (h : Divides rest spans) :
    Divides rest (textSpan t ++ spans) ∧ written (textSpan t ++ spans) ++ rest = t ++ (written spans ++ rest) := by
  by_cases empty : t = []
  · subst empty
    exact ⟨h, rfl⟩
  · rw [textSpan, if_neg empty]
    exact ⟨⟨empty, next, nowhere, h⟩, written_text t spans rest⟩

def Unclosed (tag : Tag) (source : Text) : Prop :=
  ∃ after, source = tag.opener ++ after ∧ Nowhere tag.Closes after.length after

/-- Every source is divided up to its end, or up to a tag that is never closed. -/
theorem exists_divides (source : Text) :
    ∃ spans rest, written spans ++ rest = source ∧ Divides rest spans ∧ (rest = [] ∨ ∃ tag, Unclosed tag rest) := by
  -- each tag leaves less of the source
  induction size : source.length using Nat.strongRecOn generalizing source with
  | ind size ih =>
      subst size
      have alone : ∀ u, ([] : List Span).head? ≠ some (.text u) := by simp
      have before_cut := cuts_cutOpener.nowhere source
      cases opened : cutOpener source with
      | none =>
          rw [opened] at before_cut
          have whole : Nowhere Opens source.length (source ++ (written [] ++ [])) := by
            simpa [written] using before_cut
          obtain ⟨divides, split⟩ := divides_textSpan alone whole trivial
          exact ⟨_, [], by simpa [written] using split, divides, Or.inl rfl⟩
      | some parts =>
          obtain ⟨before, tag, after⟩ := parts
          rw [opened] at before_cut
          have split := cutOpener_eq_some opened
          rw [List.append_assoc] at split
          have raw_cut := (cuts_cutCloser tag).nowhere after
          cases closed : tag.cutCloser after with
          | none =>
              rw [closed] at raw_cut
              have front : Nowhere Opens before.length (before ++ (written [] ++ (tag.opener ++ after))) := by
                simpa [written, ← split] using before_cut
              obtain ⟨divides, joined⟩ := divides_textSpan alone front trivial
              refine ⟨_, _, joined.trans ?_, divides, Or.inr ⟨tag, after, rfl, raw_cut⟩⟩
              rw [split]
              rfl
          | some parts =>
              obtain ⟨raw, more⟩ := parts
              rw [closed] at raw_cut
              have inner := Tag.cutCloser_eq_some closed
              rw [List.append_assoc] at inner
              obtain ⟨spans, rest, left, divides, ends⟩ := ih more.length (length_cut opened closed) more rfl
              have tagged : Divides rest (.tag tag raw :: spans) := by
                refine ⟨?_, divides⟩
                rw [left, ← inner]
                exact raw_cut
              have joined : written (.tag tag raw :: spans) ++ rest = tag.opener ++ after := by
                rw [written_tag, left, ← inner]
              have front : Nowhere Opens before.length (before ++ (written (.tag tag raw :: spans) ++ rest)) := by
                rw [joined, ← split]
                exact before_cut
              obtain ⟨divided, whole⟩ := divides_textSpan (by simp) front tagged
              exact ⟨_, rest, by rw [whole, joined, ← split], divided, ends⟩

theorem opens_of_unclosed {rest : Text} (ends : rest = [] ∨ ∃ tag, Unclosed tag rest) : rest = [] ∨ Opens rest := by
  rcases ends with rfl | ⟨tag, after, rfl, _⟩
  · exact Or.inl rfl
  · exact Or.inr ⟨tag, List.prefix_append ..⟩

theorem tokenize_unclosed {tag : Tag} {rest : Text} (h : Unclosed tag rest) : tokenize rest = .error tag := by
  obtain ⟨after, rfl, shut⟩ := h
  rw [tokenize_eq, cutOpener_opener]
  simp only [(cuts_cutCloser tag).eq_none shut]

theorem tokenize_divides {spans : List Span} (h : Divides [] spans) :
    tokenize (written spans) = .ok (spans.map Span.token) := by
  have read := tokenize_written (Or.inl rfl) h
  rw [List.append_nil] at read
  rw [read]
  change Except.ok (spans.map Span.token ++ []) = _
  rw [List.append_nil]

theorem tokenize_eq_ok {source : Text} {tokens : List Token} :
    tokenize source = .ok tokens ↔
      ∃ spans, Divides [] spans ∧ written spans = source ∧ spans.map Span.token = tokens := by
  constructor
  · intro h
    obtain ⟨spans, rest, rfl, divides, ends⟩ := exists_divides source
    have read := tokenize_written (opens_of_unclosed ends) divides
    rcases ends with rfl | ⟨tag, unclosed⟩
    · rw [List.append_nil] at h ⊢
      rw [tokenize_divides divides] at h
      exact ⟨spans, divides, rfl, Except.ok.inj h⟩
    · rw [read, tokenize_unclosed unclosed] at h
      cases h
  · rintro ⟨spans, divides, rfl, rfl⟩
    exact tokenize_divides divides

/-! ## Only one way -/

/-- The text in front of the first tag of a divided source. -/
theorem cutOpener_text {t : Text} {spans : List Span} (h : Divides [] (.text t :: spans)) :
    (cutOpener (written (.text t :: spans))).elim (written (.text t :: spans)) Prod.fst = t := by
  obtain ⟨_, next, nowhere, _⟩ := h
  have split := written_text t spans []
  rw [List.append_nil, List.append_nil] at split
  rw [List.append_nil] at nowhere
  have boundary : written spans ++ [] = [] ∨ Opens (written spans ++ []) := opens_of_divides (Or.inl rfl) next
  rw [List.append_nil] at boundary
  rw [split]
  rcases boundary with none_left | ⟨tag, after, more⟩
  · rw [none_left, List.append_nil] at nowhere ⊢
    rw [cuts_cutOpener.eq_none nowhere]
    rfl
  · rw [← more] at nowhere ⊢
    rw [cutOpener_append nowhere]
    rfl

theorem cutOpener_tag (kind : Tag) (raw : Text) (spans : List Span) :
    cutOpener (written (.tag kind raw :: spans)) = some ([], kind, raw ++ (kind.closer ++ written spans)) := by
  have split := written_tag kind raw spans []
  rw [List.append_nil, List.append_nil] at split
  rw [split, cutOpener_opener]

theorem written_ne_nil {span : Span} {spans : List Span} (h : Divides [] (span :: spans)) :
    written (span :: spans) ≠ [] := by
  rw [written_cons]
  refine List.append_ne_nil_of_left_ne_nil ?_ _
  cases span with
  | text t => exact h.1
  | tag kind raw =>
      cases kind with
      | reference => exact List.cons_ne_nil _ _
      | comment => exact List.cons_ne_nil _ _

theorem divides_unique {first : List Span} : ∀ {second : List Span}, Divides [] first → Divides [] second →
    written first = written second → first = second := by
  induction first with
  | nil =>
      intro second _ h same
      cases second with
      | nil => rfl
      | cons span spans => exact absurd same.symm (written_ne_nil h)
  | cons span spans ih =>
      intro second h other same
      cases second with
      | nil => exact absurd same (written_ne_nil h)
      | cons rival rivals =>
          cases span with
          | text t =>
              have lead := cutOpener_text h
              rw [same] at lead
              cases rival with
              | text u =>
                  rw [cutOpener_text other] at lead
                  subst lead
                  rw [written_cons, written_cons] at same
                  rw [ih h.2.2.2 other.2.2.2 (List.append_cancel_left same)]
              | tag kind raw =>
                  rw [cutOpener_tag] at lead
                  exact absurd lead.symm h.1
          | tag kind raw =>
              cases rival with
              | text u =>
                  have lead := cutOpener_text other
                  rw [← same, cutOpener_tag] at lead
                  exact absurd lead.symm other.1
              | tag another content =>
                  have opened := cutOpener_tag kind raw spans
                  rw [same, cutOpener_tag, Option.some.injEq, Prod.mk.injEq, Prod.mk.injEq] at opened
                  obtain ⟨_, rfl, after⟩ := opened
                  have closed := h.1
                  have closes := other.1
                  rw [List.append_nil] at closed closes
                  have cut := cutCloser_append closed
                  rw [← after, cutCloser_append closes, Option.some.injEq, Prod.mk.injEq] at cut
                  obtain ⟨rfl, left⟩ := cut
                  rw [ih h.2 other.2 left.symm]

/-- The tokens of a source are those of the spans that it consists of, which are unique.  A source that does not
consist of spans has a tag that is opened after some of them and never closed, and is refused with that tag. -/
theorem tokenize_spans (source : Text) :
    (∀ tokens, tokenize source = .ok tokens ↔
      ∃ spans, Divides [] spans ∧ written spans = source ∧ spans.map Span.token = tokens) ∧
    (∀ first second, Divides [] first → written first = source → Divides [] second → written second = source →
      first = second) ∧
    ((¬ ∃ spans, Divides [] spans ∧ written spans = source) →
      ∃ spans tag rest, written spans ++ rest = source ∧ Divides rest spans ∧ Unclosed tag rest ∧
        tokenize source = .error tag ∧ ∀ autoEscape data safeKeys,
          renderTemplate autoEscape source data safeKeys = .error (.templateSyntax tag.unclosedMessage)) := by
  refine ⟨fun tokens => tokenize_eq_ok, fun first second h split other again => ?_, fun none_whole => ?_⟩
  · exact divides_unique h other (split.trans again.symm)
  · obtain ⟨spans, rest, split, divides, ends⟩ := exists_divides source
    rcases ends with rfl | ⟨tag, unclosed⟩
    · rw [List.append_nil] at split
      exact absurd ⟨spans, divides, split⟩ none_whole
    · have refused : tokenize source = .error tag := by
        rw [← split, tokenize_written (opens_of_unclosed (Or.inr ⟨tag, unclosed⟩)) divides,
          tokenize_unclosed unclosed]
        rfl
      refine ⟨spans, tag, rest, split, divides, unclosed, refused, fun autoEscape data safeKeys => ?_⟩
      rw [renderTemplate, evaluateSource, refused]
      rfl

/-- An opener inside a tag, a closer that shares a brace with what stands before it, and closers in a text. -/
example : tokenize "\x7b\x7b\x7b#\x7d\x7d\x7b#\x7d#\x7d\x7d\x7d" =
    .ok [.reference ['\x7b', '#'], .comment ['\x7d'], .text ['\x7d', '\x7d']] := rfl

end RouteView.Template
