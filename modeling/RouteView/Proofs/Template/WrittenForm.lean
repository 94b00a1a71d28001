import RouteView.Proofs.Template.Dependence
import RouteView.Proofs.Template.Spans
import RouteView.Proofs.Text.Trimming

/-!
# Templates and their written forms

An expression is read back from its written form (`Expression.parse_print`): its bars stand outside double quotes and
are the places where it is split (`splitBars_print`), and the first colon of a filter stands behind its name.  The
written forms of items are the spans of a template, since no tag opens inside a text and none is closed too early
(`divides_items`).  So a list of items comes back from its written form (`readItems_printItems`).
-/
set_option autoImplicit false
namespace RouteView

namespace Text

theorem cutAt_append {sep : Char} {before : Text} (plain : sep ∉ before) (after : Text) :
    cutAt sep (before ++ sep :: after) = some (before, after) := by
  induction before with
  | nil => rw [List.nil_append, cutAt, if_pos rfl]
  | cons c before ih =>
      rw [List.mem_cons, not_or] at plain
      rw [List.cons_append, cutAt, if_neg (Ne.symm plain.1), ih plain.2]
      rfl

theorem cutAt_eq_none {sep : Char} {text : Text} (plain : sep ∉ text) : cutAt sep text = none := by
  cases found : cutAt sep text with
  | none => rfl
  | some parts =>
      obtain ⟨split, _⟩ := cutAt_eq_some found
      exact absurd (split ▸ List.mem_append_right _ List.mem_cons_self) plain

theorem trimmed_iff {text : Text} :
    (text.head?.all (!isBlank ·) = true ∧ text.getLast?.all (!isBlank ·) = true) ↔ Trimmed text := by
  simp [Trimmed, Option.all_eq_true]

instance (text : Text) : Decidable (Trimmed text) := decidable_of_decidable_of_iff trimmed_iff

theorem Trimmed.trim_eq {text : Text} (h : Trimmed text) : trim text = text := by
  rw [trim, trimStart_eq_self h.1, trimEnd_eq_self h.2]

end Text

namespace Template

/-! ## Items that can be read back -/

structure Filter.Plain (f : Filter) : Prop where
  named : f.name ≠ []
  trimmed : Text.Trimmed f.name
  unmarked : '|' ∉ f.name ∧ ':' ∉ f.name ∧ '"' ∉ f.name
  argument : ∀ argument ∈ f.argument, '"' ∉ argument

structure Expression.Plain (e : Expression) : Prop where
  named : e.path ≠ []
  trimmed : Text.Trimmed e.path
  unmarked : '|' ∉ e.path ∧ '"' ∉ e.path
  filters : ∀ f ∈ e.filters, f.Plain
  unclosed : ¬ Tag.reference.closer <:+: e.print

def Item.Plain : Item → Prop
  | text t => t ≠ [] ∧ ∀ tag : Tag, ¬ tag.opener <:+: t
  | comment content => Text.Trimmed content ∧ ¬ Tag.comment.closer <:+: content
  | expression e => e.Plain

/-- No text stands beside another one, and only the last item is a text that ends in a brace. -/
def Apart : List Item → Prop
  | [] => True
  | .text t :: rest => (rest ≠ [] → t.getLast? ≠ some '\x7b') ∧ (∀ u, rest.head? ≠ some (.text u)) ∧ Apart rest
  | .comment _ :: rest | .expression _ :: rest => Apart rest

/-! ## Bars -/

/-- No bar in the text stands outside double quotes when it begins inside them or not, as `quoted` says, and it ends
inside them or not, as `after` says. -/
inductive Unbarred : Bool → Text → Bool → Prop
  | nil (quoted : Bool) : Unbarred quoted [] quoted
  | quote {quoted after : Bool} {rest : Text} : Unbarred (!quoted) rest after → Unbarred quoted ('"' :: rest) after
  | other {quoted after : Bool} {c : Char} {rest : Text} : c ≠ '"' → (c = '|' → quoted = true) →
      Unbarred quoted rest after → Unbarred quoted (c :: rest) after

theorem Unbarred.append {quoted inside after : Bool} {first second : Text} (h : Unbarred quoted first inside)
    (more : Unbarred inside second after) : Unbarred quoted (first ++ second) after := by
  induction h with
  | nil quoted => exact more
  | quote _ ih => exact .quote (ih more)
  | other ordinary bar _ ih => exact .other ordinary bar (ih more)

/-- Inside quotes, or where there are no bars, a text without quotes is ordinary. -/
theorem unbarred_of_unquoted {quoted : Bool} {text : Text} (unquoted : '"' ∉ text)
    (bars : quoted = true ∨ '|' ∉ text) : Unbarred quoted text quoted := by
  induction text with
  | nil => exact .nil quoted
  | cons c rest ih =>
      rw [List.mem_cons, not_or] at unquoted
      refine .other (Ne.symm unquoted.1) (fun bar => ?_) (ih unquoted.2 ?_)
      · exact bars.resolve_right fun absent => absent (bar ▸ List.mem_cons_self)
      · exact bars.imp_right fun absent member => absent (List.mem_cons_of_mem _ member)

theorem splitBars_cons {quoted : Bool} {c : Char} {rest part : Text} {parts : List Text}
    (bar : c = '|' → quoted = true) (split : splitBars (if c = '"' then !quoted else quoted) rest = part :: parts) :
    splitBars quoted (c :: rest) = (c :: part) :: parts := by
  have within : ¬ (c = '|' ∧ quoted = false) := by
    rintro ⟨rfl, outside⟩
    rw [bar rfl] at outside
    cases outside
  rw [splitBars, if_neg within, split]

theorem Unbarred.splitBars_append {quoted after : Bool} {text : Text} (h : Unbarred quoted text after) {rest : Text}
    {part : Text} {parts : List Text} (split : splitBars after rest = part :: parts) :
    splitBars quoted (text ++ rest) = (text ++ part) :: parts := by
  induction h with
  | nil quoted => exact split
  | quote _ ih => exact splitBars_cons (by simp) (by simpa using ih split)
  | other ordinary bar _ ih => exact splitBars_cons bar (by simpa [ordinary] using ih split)

/-! ## Expressions -/

def Filter.part (f : Filter) : Text :=
  f.name ++ match f.argument with
    | none => []
    | some argument => ':' :: '"' :: argument ++ ['"']

theorem Filter.Plain.unbarred {f : Filter} (h : f.Plain) : Unbarred false f.part false := by
  obtain ⟨bar, _, quote⟩ := h.unmarked
  rw [Filter.part]
  refine (unbarred_of_unquoted quote (Or.inr bar)).append ?_
  cases given : f.argument with
  | none => exact .nil false
  | some argument =>
      have inside : Unbarred true argument true := unbarred_of_unquoted (h.argument argument given) (Or.inl rfl)
      exact .other (by decide) (by decide) (.quote (inside.append (.quote (.nil false))))

theorem splitBars_print {filters : List Filter} (plain : ∀ f ∈ filters, f.Plain) : ∀ {first : Text},
    Unbarred false first false → splitBars false (first ++ filters.flatMap Filter.print) =
      first :: filters.map Filter.part := by
  induction filters with
  | nil =>
      intro first unbarred
      have split : splitBars false (first ++ []) = [first ++ []] := unbarred.splitBars_append rfl
      rw [List.append_nil] at split
      rwa [List.flatMap_nil, List.append_nil]
  | cons f rest ih =>
      intro first unbarred
      rw [List.forall_mem_cons] at plain
      have later := ih plain.2 plain.1.unbarred
      have split : splitBars false ('|' :: (f.part ++ rest.flatMap Filter.print)) =
          [] :: f.part :: rest.map Filter.part := by
        rw [splitBars, if_pos ⟨rfl, rfl⟩, later]
      have joined := unbarred.splitBars_append split
      rwa [List.append_nil] at joined

theorem unquote_quoted (argument : Text) : unquote ('"' :: argument ++ ['"']) = argument := by
  simp [unquote]

theorem trimmed_quoted (argument : Text) : Text.Trimmed ('"' :: argument ++ ['"']) := by
  constructor
  · rintro c ⟨⟩
    decide
  · intro c last
    rw [List.getLast?_concat] at last
    cases last
    decide

theorem Filter.Plain.partName_part {f : Filter} (h : f.Plain) : partName f.part = f.name := by
  have colon := h.unmarked.2.1
  rw [partName, Text.before_eq_cutAt, Filter.part]
  cases f.argument with
  | none =>
      rw [List.append_nil, Text.cutAt_eq_none colon]
      exact h.trimmed.trim_eq
  | some argument =>
      simp only [List.cons_append]
      rw [Text.cutAt_append colon]
      exact h.trimmed.trim_eq

theorem Filter.Plain.read_part {f : Filter} (h : f.Plain) : Filter.read f.part = f := by
  have colon := h.unmarked.2.1
  have name := h.partName_part
  obtain ⟨own, argument⟩ := f
  rw [Filter.read, name, Filter.part]
  cases argument with
  | none => rw [List.append_nil, Text.cutAt_eq_none colon, Option.map_none]
  | some argument =>
      simp only [List.cons_append]
      rw [Text.cutAt_append colon, Option.map_some]
      simp only
      rw [← List.cons_append, (trimmed_quoted argument).trim_eq, unquote_quoted]

theorem Expression.parse_print {e : Expression} (h : e.Plain) : Expression.parse e.print = .ok e := by
  obtain ⟨bar, quote⟩ := h.unmarked
  have split := splitBars_print h.filters (unbarred_of_unquoted quote (Or.inr bar))
  have path : tagPath e.print = e.path := by
    rw [tagPath, Expression.print, split]
    exact h.trimmed.trim_eq
  have parts : tagParts e.print = e.filters.map Filter.part := by
    rw [tagParts, Expression.print, split]
    rfl
  have names : [] ∉ (e.filters.map Filter.part).map partName := by
    rw [List.map_map]
    intro unnamed
    obtain ⟨f, member, empty⟩ := List.mem_map.mp unnamed
    exact (h.filters f member).named ((h.filters f member).partName_part.symm.trans empty)
  have filters : (e.filters.map Filter.part).map Filter.read = e.filters := by
    rw [List.map_map]
    exact (List.map_congr_left fun f member => (h.filters f member).read_part).trans (List.map_id _)
  rw [Expression.parse_eq, path, parts, if_neg h.named, if_neg names, tagExpression, path, parts, filters]

/-! ## Spans -/

theorem unblank_append {first second : Text} (front : ∀ c ∈ first.getLast?, Text.isBlank c = false)
    (back : ∀ c ∈ second.getLast?, Text.isBlank c = false) :
    ∀ c ∈ (first ++ second).getLast?, Text.isBlank c = false := by
  intro c last
  rw [List.getLast?_append, Option.mem_def, Option.or_eq_some_iff] at last
  rcases last with last | ⟨_, last⟩
  · exact back c last
  · exact front c last

theorem unblank_print {f : Filter} (h : f.Plain) : ∀ c ∈ f.print.getLast?, Text.isBlank c = false := by
  have named : ∀ c ∈ (['|'] ++ f.name).getLast?, Text.isBlank c = false := by
    refine unblank_append ?_ h.trimmed.2
    rintro c ⟨⟩
    decide
  refine unblank_append named ?_
  cases f.argument with
  | none => rintro c ⟨⟩
  | some argument =>
      intro c last
      rw [List.getLast?_concat] at last
      cases last
      decide

theorem unblank_filters {filters : List Filter} (plain : ∀ f ∈ filters, f.Plain) :
    ∀ c ∈ (filters.flatMap Filter.print).getLast?, Text.isBlank c = false := by
  induction filters with
  | nil => rintro c ⟨⟩
  | cons f rest ih =>
      rw [List.forall_mem_cons] at plain
      exact unblank_append (unblank_print plain.1) (ih plain.2)

theorem trimmed_print {e : Expression} (h : e.Plain) : Text.Trimmed e.print := by
  refine ⟨?_, unblank_append h.trimmed.2 (unblank_filters h.filters)⟩
  have first := h.trimmed.1
  rw [Expression.print]
  cases path : e.path with
  | nil => exact absurd path h.named
  | cons c rest => rwa [path] at first

/-- A mark of two characters begins nowhere in a text that does not contain it, unless it begins at its end. -/
theorem nowhere_mark {x y : Char} {raw more : Text} (absent : ¬ [x, y] <:+: raw)
    (apart : raw.getLast? = some x → more.head? ≠ some y) :
    Nowhere (fun source => [x, y] <+: source) raw.length (raw ++ more) := by
  rintro k inside ⟨after, found⟩
  rw [List.drop_append_of_le_length (Nat.le_of_lt inside)] at found
  cases left : raw.drop k with
  | nil => exact absurd (List.drop_eq_nil_iff.mp left) (Nat.not_le.mpr inside)
  | cons c rest =>
      have split : raw.take k ++ c :: rest = raw := by rw [← left, List.take_append_drop]
      rw [left] at found
      cases rest with
      | nil =>
          cases found
          exact apart (by rw [← split, List.getLast?_concat]) rfl
      | cons d rest =>
          cases found
          exact absent ⟨raw.take k, rest, by simpa using split⟩

def padded (content : Text) : Text := ' ' :: content ++ [' ']

theorem trim_content {content : Text} (h : Text.Trimmed content) : Text.trim (padded content) = content := by
  have space : Text.IsGap [' '] := List.forall_mem_singleton.mpr (by decide)
  exact Text.trim_padded space space h

theorem Tag.opener_eq (tag : Tag) : ∃ y, tag.opener = ['\x7b', y] := by
  cases tag with
  | reference => exact ⟨'\x7b', rfl⟩
  | comment => exact ⟨'#', rfl⟩

theorem Tag.closer_eq (tag : Tag) : ∃ x, x ≠ ' ' ∧ tag.closer = [x, '\x7d'] := by
  cases tag with
  | reference => exact ⟨'\x7d', by decide, rfl⟩
  | comment => exact ⟨'#', by decide, rfl⟩

/-- A mark without spaces that is not in a content is not in the padded content either. -/
theorem infix_of_padded {x y : Char} {content : Text} (first : x ≠ ' ') (second : y ≠ ' ')
    (inside : [x, y] <:+: padded content) : [x, y] <:+: content := by
  rcases List.infix_concat_iff.mp inside with ⟨front, split⟩ | within
  · have last := congrArg List.getLast? split
    simp only [List.getLast?_append, List.getLast?_cons_cons, List.getLast?_singleton, Option.some_or,
      Option.some.injEq] at last
    exact absurd last second
  · rcases List.infix_cons_iff.mp within with ⟨rest, split⟩ | within
    · cases split
      exact absurd rfl first
    · exact within

theorem nowhere_closer {kind : Tag} {content : Text} (absent : ¬ kind.closer <:+: content) (rest : Text) :
    Nowhere kind.Closes (padded content).length (padded content ++ (kind.closer ++ rest)) := by
  obtain ⟨x, solid, closer⟩ := kind.closer_eq
  rw [closer] at absent
  intro k inside closes
  rw [Tag.Closes, closer] at closes
  refine nowhere_mark (mt (infix_of_padded solid (by decide)) absent) (fun last => ?_) k inside closes
  rw [padded, List.getLast?_concat, Option.some.injEq] at last
  exact absurd last.symm solid

theorem nowhere_opener {t more : Text} (absent : ∀ tag : Tag, ¬ tag.opener <:+: t)
    (ends : t.getLast? = some '\x7b' → more = []) : Nowhere Opens t.length (t ++ more) := by
  rintro k inside ⟨tag, opens⟩
  obtain ⟨y, opener⟩ := tag.opener_eq
  have missing := absent tag
  rw [opener] at missing opens
  refine nowhere_mark missing (fun last => ?_) k inside opens
  rw [ends last]
  simp

def Item.span : Item → Span
  | text t => .text t
  | comment content => .tag .comment (padded content)
  | expression e => .tag .reference (padded e.print)

theorem written_spans (items : List Item) : written (items.map Item.span) = printItems items := by
  rw [written, printItems, List.flatMap_map]
  refine List.flatMap_congr fun item _ => ?_
  cases item with
  | text t => rfl
  | comment content => simp [Item.span, Span.written, Item.print, Tag.print, padded]
  | expression e => simp [Item.span, Span.written, Item.print, Tag.print, padded]

/-- No tag opens inside a text or at its end, and every tag is closed for the first time at its end. -/
theorem divides_items {items : List Item} (plain : ∀ item ∈ items, item.Plain) (apart : Apart items) :
    Divides [] (items.map Item.span) := by
  induction items with
  | nil => trivial
  | cons item rest ih =>
      rw [List.forall_mem_cons] at plain
      cases item with
      | text t =>
          obtain ⟨ends, next, apart⟩ := apart
          refine ⟨plain.1.1, fun u => ?_, nowhere_opener plain.1.2 fun brace => ?_, ih plain.2 apart⟩
          · cases rest with
            | nil => simp
            | cons item rest =>
                cases item with
                | text v => exact absurd rfl (next v)
                | comment content => simp [Item.span]
                | expression e => simp [Item.span]
          · obtain rfl : rest = [] := Classical.byContradiction fun more => ends more brace
            rfl
      | comment content => exact ⟨nowhere_closer plain.1.2 _, ih plain.2 apart⟩
      | expression e => exact ⟨nowhere_closer plain.1.unclosed _, ih plain.2 apart⟩

theorem item_token {item : Item} (plain : item.Plain) : item.span.token.item = .ok item := by
  cases item with
  | text t => rfl
  | comment content =>
      rw [Item.span, Span.token, Tag.token, trim_content plain.1]
      rfl
  | expression e =>
      rw [Item.span, Span.token, Tag.token, trim_content (trimmed_print plain), Token.item,
        Expression.parse_print plain]
      rfl

theorem mapM_item {items : List Item} (plain : ∀ item ∈ items, item.Plain) :
    ((items.map Item.span).map Span.token).mapM Token.item = .ok items := by
  induction items with
  | nil => rfl
  | cons item rest ih =>
      rw [List.forall_mem_cons] at plain
      rw [List.map_cons, List.map_cons, List.mapM_cons, item_token plain.1, ih plain.2]
      rfl

/-- A list of items is read back from its written form. -/
theorem readItems_printItems {items : List Item} (plain : ∀ item ∈ items, item.Plain) (apart : Apart items) :
    readItems (printItems items) = .ok items := by
  rw [readItems, ← written_spans, tokenize_divides (divides_items plain apart)]
  simp only [mapM_item plain]
  rfl

/-- An argument keeps its bar, its colon, the closer of a comment and the spaces around it, and a brace may end the
last text. -/
theorem readItems_printItems_quoted :
    let items : List Item := [.text "a\x7d ", .expression ⟨"user.name", [⟨"default", some " a|b:#\x7d "⟩,
      ⟨"upper", none⟩]⟩, .comment "note \x7d", .text "\x7b"]
    (∀ item ∈ items, item.Plain) ∧ Apart items ∧ readItems (printItems items) = .ok items := by
  have fallback : Filter.Plain ⟨"default", some " a|b:#\x7d "⟩ := ⟨by decide, by decide, by decide, by decide⟩
  have upper : Filter.Plain ⟨"upper", none⟩ := ⟨by decide, by decide, by decide, by decide⟩
  have filters : ∀ f ∈ [⟨"default", some " a|b:#\x7d "⟩, ⟨"upper", none⟩], Filter.Plain f := by
    simp only [List.forall_mem_cons]
    exact ⟨fallback, upper, by simp⟩
  have expression : Expression.Plain ⟨"user.name", [⟨"default", some " a|b:#\x7d "⟩, ⟨"upper", none⟩]⟩ := by
    refine ⟨by decide, by decide, by decide, filters, fun inside => ?_⟩
    exact absurd (inside.sublist.count_le '\x7d') (by decide)
  have text : Item.Plain (.text "a\x7d ") := ⟨by decide, fun tag => by cases tag <;> decide⟩
  have last : Item.Plain (.text "\x7b") := ⟨by decide, fun tag => by cases tag <;> decide⟩
  have comment : Item.Plain (.comment "note \x7d") := ⟨by decide, by decide⟩
  intro items
  have plain : ∀ item ∈ items, item.Plain := by
    simp only [items, List.forall_mem_cons]
    exact ⟨text, expression, comment, last, by simp⟩
  have apart : Apart items := ⟨by decide, by simp, by simp, by simp, trivial⟩
  exact ⟨plain, apart, readItems_printItems plain apart⟩

end Template
end RouteView
