import RouteView.Text.Basic

/-!
# Character entities

The five characters that have a meaning in markup are written as entities.  `escape` replaces them one
after the other, the ampersand first; `entity` is the form of a single character, and `unescape` reads
the five entities back.
-/
set_option autoImplicit false
namespace RouteView.Text

def replaceChar (c : Char) (image : Text) (text : Text) : Text :=
  text.flatMap fun d => if d = c then image else [d]

/-- The text with ampersands, angle brackets and quotes as entities. -/
def escape (text : Text) : Text :=
  replaceChar '\'' "&#x27;" <| replaceChar '"' "&quot;" <| replaceChar '>' "&gt;" <|
    replaceChar '<' "&lt;" <| replaceChar '&' "&amp;" text

def entity (c : Char) : Text :=
  if c = '&' then "&amp;" else if c = '<' then "&lt;" else if c = '>' then "&gt;"
  else if c = '"' then "&quot;" else if c = '\'' then "&#x27;" else [c]

/-- The text with the five entities read back, from left to right. -/
def unescape : Text → Text
  | '&' :: 'a' :: 'm' :: 'p' :: ';' :: rest => '&' :: unescape rest
  | '&' :: 'l' :: 't' :: ';' :: rest => '<' :: unescape rest
  | '&' :: 'g' :: 't' :: ';' :: rest => '>' :: unescape rest
  | '&' :: 'q' :: 'u' :: 'o' :: 't' :: ';' :: rest => '"' :: unescape rest
  | '&' :: '#' :: 'x' :: '2' :: '7' :: ';' :: rest => '\'' :: unescape rest
  | c :: rest => c :: unescape rest
  | [] => []

theorem replaceChar_append (c : Char) (image first second : Text) :
    replaceChar c image (first ++ second) = replaceChar c image first ++ replaceChar c image second := by
  simp [replaceChar]

theorem escape_append (first second : Text) : escape (first ++ second) = escape first ++ escape second := by
  simp only [escape, replaceChar_append]

theorem escape_nil : escape [] = [] := rfl

end RouteView.Text
