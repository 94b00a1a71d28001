import RouteView.Text.Blank

/-!
# Template tokens

A template is plain text, variable tags in double braces and comment tags in braces with hash signs.  A
tag opens where its opener first occurs and closes where its closer first occurs after that; its content
is trimmed.  Everything else is text.  `cutOpener_eq_some` and `Tag.cutCloser_eq_some` say that cutting a
source at a tag loses nothing.
-/
set_option autoImplicit false
namespace RouteView.Template

inductive Token
  | text (t : Text)
  | reference (content : Text)
  | comment (content : Text)
deriving DecidableEq

inductive Tag
  | reference
  | comment
deriving DecidableEq

namespace Tag

def opener : Tag → Text
  | reference => "\x7b\x7b"
  | comment => "\x7b#"

def closer : Tag → Text
  | reference => "\x7d\x7d"
  | comment => "#\x7d"

def name : Tag → Text
  | reference => "variable"
  | comment => "comment"

/-- The token of a tag with this raw content. -/
def token (raw : Text) : Tag → Token
  | reference => .reference (Text.trim raw)
  | comment => .comment (Text.trim raw)

def unclosedMessage (tag : Tag) : Text :=
  "Unclosed " ++ tag.name ++ " tag: expected '" ++ tag.closer ++ "'"

/-- The text before the first closer and the text after it. -/
def cutCloser (tag : Tag) : Text → Option (Text × Text)
  | [] => none
  | c :: rest =>
      if tag.closer.isPrefixOf (c :: rest) then some ([], rest.drop 1)
      else (cutCloser tag rest).map fun (before, after) => (c :: before, after)

end Tag

/-- The text before the first opener, its tag, and the text after it. -/
def cutOpener : Text → Option (Text × Tag × Text)
  | [] => none
  | c :: rest =>
      if Tag.reference.opener.isPrefixOf (c :: rest) then some ([], .reference, rest.drop 1)
      else if Tag.comment.opener.isPrefixOf (c :: rest) then some ([], .comment, rest.drop 1)
      else (cutOpener rest).map fun (before, tag, after) => (c :: before, tag, after)

theorem Tag.cutCloser_eq_some {tag : Tag} {source before after : Text}
    (h : tag.cutCloser source = some (before, after)) : source = before ++ tag.closer ++ after := by
  induction source generalizing before with
  | nil => simp [Tag.cutCloser] at h
  | cons c rest ih =>
      simp only [Tag.cutCloser] at h
      by_cases hc : tag.closer.isPrefixOf (c :: rest) = true
      · rw [if_pos hc] at h
        simp only [Option.some.injEq, Prod.mk.injEq] at h
        obtain ⟨rfl, rfl⟩ := h
        obtain ⟨tail, ht⟩ := List.isPrefixOf_iff_prefix.mp hc
        cases tag <;> cases ht <;> rfl
      · rw [if_neg hc] at h
        obtain ⟨⟨b, a⟩, hb, he⟩ := Option.map_eq_some_iff.mp h
        simp only [Prod.mk.injEq] at he
        obtain ⟨rfl, rfl⟩ := he
        rw [ih hb]
        rfl

theorem cutOpener_eq_some {source before after : Text} {tag : Tag}
    (h : cutOpener source = some (before, tag, after)) : source = before ++ tag.opener ++ after := by
  induction source generalizing before with
  | nil => simp [cutOpener] at h
  | cons c rest ih =>
      simp only [cutOpener] at h
      by_cases hr : Tag.reference.opener.isPrefixOf (c :: rest) = true
      · rw [if_pos hr] at h
        simp only [Option.some.injEq, Prod.mk.injEq] at h
        obtain ⟨rfl, rfl, rfl⟩ := h
        obtain ⟨tail, ht⟩ := List.isPrefixOf_iff_prefix.mp hr
        cases ht
        rfl
      · rw [if_neg hr] at h
        by_cases hc : Tag.comment.opener.isPrefixOf (c :: rest) = true
        · rw [if_pos hc] at h
          simp only [Option.some.injEq, Prod.mk.injEq] at h
          obtain ⟨rfl, rfl, rfl⟩ := h
          obtain ⟨tail, ht⟩ := List.isPrefixOf_iff_prefix.mp hc
          cases ht
          rfl
        · rw [if_neg hc] at h
          obtain ⟨⟨b, t, a⟩, hb, he⟩ := Option.map_eq_some_iff.mp h
          simp only [Prod.mk.injEq] at he
          obtain ⟨rfl, rfl, rfl⟩ := he
          rw [ih hb]
          rfl

/-- A text token, unless the text is empty. -/
def textToken (t : Text) : List Token := if t = [] then [] else [.text t]

/-- The tokens of a source of at most `fuel` characters. -/
def tokensWithin : Nat → Text → Except Tag (List Token)
  | 0, source => .ok (textToken source)
  | fuel + 1, source =>
      match cutOpener source with
      | none => .ok (textToken source)
      | some (before, tag, rest) =>
          match tag.cutCloser rest with
          | none => .error tag
          | some (raw, rest) => do
              let tokens ← tokensWithin fuel rest
              return textToken before ++ tag.token raw :: tokens

/-- The tokens of a source, or the tag that is opened and never closed. -/
def tokenize (source : Text) : Except Tag (List Token) := tokensWithin source.length source

end RouteView.Template
