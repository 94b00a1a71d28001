import RouteView.Text.CaseMap
import RouteView.Text.ConcealedTable

/-!
# Quoted text

A text between double quotes that shows every character: quotes and backslashes after a backslash, the
usual letters for NUL, tab and line ends, and the code point in braces for every other concealed
character.
-/
set_option autoImplicit false
namespace RouteView.Text

/-- Characters that quoted text shows by their code point. -/
def isConcealed (c : Char) : Bool := inRanges c.toNat concealedRanges

def quoteChar (c : Char) : Text :=
  if c = '"' then ['\\', '"']
  else if c = '\\' then ['\\', '\\']
  else if c = '\n' then ['\\', 'n']
  else if c = '\r' then ['\\', 'r']
  else if c = '\t' then ['\\', 't']
  else if c = '\x00' then ['\\', '0']
  else if isConcealed c then ['\\', 'u', '\x7b'] ++ Nat.toDigits 16 c.toNat ++ ['\x7d']
  else [c]

def quote (text : Text) : Text := '"' :: text.flatMap quoteChar ++ ['"']

/-- The items between square brackets, with a comma and a space between neighbours. -/
def bracket (items : List Text) : Text := '[' :: join (", " : Text) items ++ [']']

end RouteView.Text
