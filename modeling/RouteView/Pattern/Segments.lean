import RouteView.Text.Basic

/-!
# Segments of a path pattern

A pattern is a sequence of literal texts, parameters and optional groups, groups holding sequences of
their own.  A parameter is written as a colon and a name, a group in square brackets; a colon that no
letter follows is literal text.  `Segments.parse` reads the written form that `Segments.print` produces from
left to right, with the open groups on a stack; `Canonical` describes the sequences it returns.
-/
set_option autoImplicit false
namespace RouteView

inductive Segments
  | nil
  | literal (text : Text) (rest : Segments)
  | parameter (name : Text) (rest : Segments)
  | optional (children rest : Segments)
deriving DecidableEq

inductive PatternFault
  /-- A closing bracket at this byte closes nothing. -/
  | unmatched (byte : Nat)
  /-- This many brackets are never closed. -/
  | unclosed (count : Nat)
  /-- Groups nest too deeply for the compiled expression. -/
  | tooDeep
deriving DecidableEq

namespace PatternFault

def reason : PatternFault → Text
  | unmatched byte => "unmatched ']' at byte " ++ Text.ofNat byte
  | unclosed count => Text.ofNat count ++ " unclosed '['"
  | tooDeep => "invalid regex: nested too deeply"

end PatternFault

namespace Segments

def isLetter (c : Char) : Bool := ('a' ≤ c && c ≤ 'z') || ('A' ≤ c && c ≤ 'Z')

/-- ASCII letters and digits, and the underscore. -/
def isWord (c : Char) : Bool := isLetter c || ('0' ≤ c && c ≤ '9') || c = '_'

def print : Segments → Text
  | nil => []
  | literal text rest => text ++ print rest
  | parameter name rest => ':' :: name ++ print rest
  | optional children rest => '[' :: print children ++ ']' :: print rest

/-- The segments of the first sequence, then those of the second. -/
def append : Segments → Segments → Segments
  | nil, more => more
  | literal text rest, more => literal text (append rest more)
  | parameter name rest, more => parameter name (append rest more)
  | optional children rest, more => optional children (append rest more)

/-- The parameter name at the start of a text; empty when there is no letter. -/
def nameOf : Text → Text
  | [] => []
  | c :: rest => if isLetter c then c :: rest.takeWhile isWord else []

/-- The sequences that a source forms up to some place. -/
structure Draft where
  /-- The innermost sequence that is still open. -/
  current : Segments
  /-- The sequences around it, from the inside out. -/
  outer : List Segments
  /-- Literal text that stands in no segment yet. -/
  pending : Text

namespace Draft

/-- The innermost sequence with the pending text as its last segment. -/
def whole (r : Draft) : Segments :=
  if r.pending = [] then r.current else r.current.append (literal r.pending nil)

/-- The draft after `c`, and how many characters of `rest` belong to a name that begins there; nothing when
`c` closes a group that was never opened. -/
def step (r : Draft) (c : Char) (rest : Text) : Option (Draft × Nat) :=
  if c = '[' then some (⟨nil, r.whole :: r.outer, []⟩, 0)
  else if c = ']' then
    match r.outer with
    | [] => none
    | parent :: outer => some (⟨parent.append (optional r.whole nil), outer, []⟩, 0)
  else if c = ':' ∧ nameOf rest ≠ [] then
    some (⟨r.whole.append (parameter (nameOf rest) nil), r.outer, []⟩, (nameOf rest).length)
  else some ({ r with pending := r.pending ++ [c] }, 0)

def finish (r : Draft) : Except PatternFault Segments :=
  if r.outer = [] then .ok r.whole else .error (.unclosed r.outer.length)

/-- Reads on from byte `offset`, after `skip` characters that belong to a name. -/
def run : Draft → Nat → Nat → Text → Except PatternFault Segments
  | r, _, _, [] => r.finish
  | r, offset, skip + 1, c :: rest => run r (offset + c.utf8Size) skip rest
  | r, offset, 0, c :: rest =>
      match r.step c rest with
      | none => .error (.unmatched offset)
      | some (next, taken) => run next (offset + c.utf8Size) taken rest

end Draft

def parse (source : Text) : Except PatternFault Segments := Draft.run ⟨nil, [], []⟩ 0 0 source

def IsName (name : Text) : Prop :=
  ∃ c rest, name = c :: rest ∧ isLetter c = true ∧ ∀ d ∈ rest, isWord d = true

/-- A text that reads back as one literal: not empty, without brackets, and with no colon before a
letter. -/
def IsLiteral (text : Text) : Prop :=
  text ≠ [] ∧ '[' ∉ text ∧ ']' ∉ text ∧
    ∀ before c after, text = before ++ ':' :: c :: after → isLetter c = false

/-- What may follow a literal: anything but another literal. -/
def startsLiteral : Segments → Bool
  | literal .. => true
  | _ => false

/-- A literal that would lengthen a parameter name in front of it. -/
def startsWord : Segments → Bool
  | literal (c :: _) _ => isWord c
  | _ => false

/-- The sequences that `parse` returns. -/
def Canonical : Segments → Prop
  | nil => True
  | literal text rest => IsLiteral text ∧ startsLiteral rest = false ∧ Canonical rest
  | parameter name rest => IsName name ∧ startsWord rest = false ∧ Canonical rest
  | optional children rest => Canonical children ∧ Canonical rest

end Segments
end RouteView
