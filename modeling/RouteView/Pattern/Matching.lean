import RouteView.Pattern.Segments

/-!
# Matching a path

A path is read from left to right: an optional group is taken when the rest can still be matched and
skipped otherwise, and a parameter takes the longest text, without a slash and not empty, that lets the
rest be matched.  `accept` tells for every suffix of the path at once whether the rest can be matched, so
that no choice is ever taken back.  A name that was read twice must have been given the same text.

`Derives` is the relation behind it: all the ways of reading a path, the choices listed in order.
-/
set_option autoImplicit false
namespace RouteView

/-- Captured texts by parameter name, in the order in which the names were first read. -/
abbrev Captures := List (Text × Text)

inductive Choice
  | take
  | skip
  | capture (name text : Text)
deriving DecidableEq

/-- One entry for each suffix of a path, from the whole path to the empty one. -/
abbrev Marks := List Bool

namespace Segments

/-- Suffixes that start with `c` and go on to a marked one. -/
def acceptChar (c : Char) : Text → Marks → Marks
  | d :: path, _ :: marks => (d == c && marks.headD false) :: acceptChar c path marks
  | _, _ => [false]

def acceptLiteral (text path : Text) (marks : Marks) : Marks :=
  text.foldr (fun c marks => acceptChar c path marks) marks

/-- Suffixes that start with characters other than a slash, at least one, and go on to a marked one. -/
def acceptParameter : Text → Marks → Marks
  | d :: path, _ :: marks =>
      let rest := acceptParameter path marks
      (d != '/' && (marks.headD false || rest.headD false)) :: rest
  | _, _ => [false]

/-- Suffixes that the segments match up to a marked one. -/
def accept : Segments → Text → Marks → Marks
  | nil, _, marks => marks
  | literal text rest, path, marks => acceptLiteral text path (accept rest path marks)
  | parameter _ rest, path, marks => acceptParameter path (accept rest path marks)
  | optional children rest, path, marks =>
      let after := accept rest path marks
      List.zipWith (· || ·) (accept children path after) after

/-- The length of the longest text of a parameter that ends at a marked suffix; zero when there is
none. -/
def longest : Text → Marks → Nat
  | d :: path, _ :: marks =>
      if d = '/' then 0
      else match longest path marks with
        | 0 => if marks.headD false then 1 else 0
        | n + 1 => n + 2
  | _, _ => 0

/-- The choices of reading `path` up to a marked suffix, and that suffix. -/
def choose : Segments → Text → Marks → List Choice × Text
  | nil, path, _ => ([], path)
  | literal text rest, path, marks => choose rest (path.drop text.length) (marks.drop text.length)
  | parameter name rest, path, marks =>
      let size := longest path (accept rest path marks)
      let (choices, left) := choose rest (path.drop size) (marks.drop size)
      (.capture name (path.take size) :: choices, left)
  | optional children rest, path, marks =>
      let after := accept rest path marks
      if (accept children path after).headD false then
        let (inner, middle) := choose children path after
        let (outer, left) := choose rest middle (marks.drop (path.length - middle.length))
        (.take :: inner ++ outer, left)
      else
        let (choices, left) := choose rest path marks
        (.skip :: choices, left)

def endMarks (path : Text) : Marks := List.replicate path.length false ++ [true]

/-- The choices of the preferred reading of a whole path. -/
def firstReading (segments : Segments) (path : Text) : Option (List Choice) :=
  if (accept segments path (endMarks path)).headD false then
    some (choose segments path (endMarks path)).1
  else none

/-- The captured texts of a reading, on top of those already known; nothing when two texts of one name
differ. -/
def capturesFrom (known : Captures) : List Choice → Option Captures
  | [] => some known
  | .capture name text :: rest =>
      match known.lookup name with
      | none => capturesFrom (known ++ [(name, text)]) rest
      | some earlier => if earlier = text then capturesFrom known rest else none
  | _ :: rest => capturesFrom known rest

def captures? (segments : Segments) (path : Text) : Option Captures :=
  (firstReading segments path).bind (capturesFrom [])

def Fills (text : Text) : Prop := text ≠ [] ∧ '/' ∉ text

/-- `Derives s path choices`: the segments read the whole of `path` with these choices. -/
inductive Derives : Segments → Text → List Choice → Prop
  | nil : Derives nil [] []
  | literal {text path : Text} {rest : Segments} {choices : List Choice} :
      Derives rest path choices → Derives (literal text rest) (text ++ path) choices
  | parameter {name text path : Text} {rest : Segments} {choices : List Choice} :
      Fills text → Derives rest path choices →
      Derives (parameter name rest) (text ++ path) (.capture name text :: choices)
  | take {children rest : Segments} {first second : Text} {inner outer : List Choice} :
      Derives children first inner → Derives rest second outer →
      Derives (optional children rest) (first ++ second) (.take :: inner ++ outer)
  | skip {children rest : Segments} {path : Text} {choices : List Choice} :
      Derives rest path choices → Derives (optional children rest) path (.skip :: choices)

end Segments

/-- Which of two choices at one place is preferred: taking a group, and the longer text. -/
def Choice.Before : Choice → Choice → Prop
  | .take, .skip => True
  | .capture _ text, .capture _ other => other.length < text.length
  | _, _ => False

/-- The first choice in which two lists differ is preferred in the first list. -/
def Choice.Precedes (first second : List Choice) : Prop :=
  ∃ shared a b more others, first = shared ++ a :: more ∧ second = shared ++ b :: others ∧ a.Before b

end RouteView
