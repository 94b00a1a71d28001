import RouteView.Text.Basic
import RouteView.Text.CaseTable

/-!
# Full case mapping

Upper and lower case of a text by the full Unicode mappings, so that one character may become several.
The one rule that looks at the neighbours is that of the Greek sigma: its lower case is the final form
at the end of a word, that is after a cased letter and not before one, case-ignorable characters being
passed over.
-/
set_option autoImplicit false
namespace RouteView.Text

/-- Whether `n` lies in one of the ascending ranges. -/
def inRanges (n : Nat) : List (Nat × Nat) → Bool
  | [] => false
  | (first, last) :: rest => first ≤ n && (n ≤ last || inRanges n rest)

def isCased (c : Char) : Bool := inRanges c.toNat casedRanges

def isCaseIgnorable (c : Char) : Bool := inRanges c.toNat caseIgnorableRanges

/-- The code point that the ascending runs give to `n`; `n` itself when none holds it. -/
def mapRuns (n : Nat) : List CaseRun → Nat
  | [] => n
  | (first, last, step, target) :: rest =>
      if n < first then n
      else if n ≤ last && (n - first) % step == 0 then target + (n - first)
      else mapRuns n rest

/-- The image of one character: its expansion if it has one, else its simple mapping. -/
def mapCase (runs : List CaseRun) (expansions : List (Nat × List Nat)) (c : Char) : Text :=
  match expansions.lookup c.toNat with
  | some image => image.map Char.ofNat
  | none => [Char.ofNat (mapRuns c.toNat runs)]

def upperChar (c : Char) : Text := mapCase upperRuns upperExpansions c

def lowerChar (c : Char) : Text := mapCase lowerRuns lowerExpansions c

def toUpper (text : Text) : Text := text.flatMap upperChar

/-- Whether the first character that is not case-ignorable is a cased letter. -/
def startsCased (text : Text) : Bool :=
  match text.dropWhile isCaseIgnorable with
  | [] => false
  | c :: _ => isCased c

/-- Lower case of `text`, `before` being the characters in front of it, nearest first. -/
def lowerAfter (before : Text) : Text → Text
  | [] => []
  | c :: rest =>
      let image := if c = 'Σ' then (if startsCased before && !startsCased rest then ['ς'] else ['σ'])
        else lowerChar c
      image ++ lowerAfter (c :: before) rest

def toLower (text : Text) : Text := lowerAfter [] text

end RouteView.Text
