import RouteView.Text.Basic

/-!
# Request targets

The target of a request is the path of its URI together with the query, exactly as written.  A fragment
is no part of it.  Behind a scheme it follows the authority, and an empty one is the root; without a
scheme it must begin with a slash.
-/
set_option autoImplicit false
namespace RouteView.Http

/-- Letters, digits, plus, minus, the dot and the tilde make up a scheme. -/
def isSchemeChar (c : Char) : Bool := c.isAlphanum || c ∈ ['+', '-', '.', '~']

/-- What follows the scheme and its mark, if there is a scheme. -/
def afterScheme? : Text → Option Text
  | ':' :: '/' :: '/' :: rest => some rest
  | c :: rest => if isSchemeChar c then afterScheme? rest else none
  | [] => none

/-- What follows the authority: it begins with a slash or a query. -/
def afterAuthority (rest : Text) : Text :=
  match rest.dropWhile fun c => c ≠ '/' ∧ c ≠ '?' with
  | [] => ['/']
  | target => target

def target? (uri : Text) : Option Text :=
  match Text.before '#' uri with
  | '/' :: rest => some ('/' :: rest)
  | whole => (afterScheme? whole).map afterAuthority

/-- A path without a fragment is its own target. -/
theorem target?_slash {path : Text} (h : '#' ∉ path) : target? ('/' :: path) = some ('/' :: path) := by
  have hs : '#' ∉ '/' :: path := by simpa using h
  simp [target?, Text.before_eq_self hs]

end RouteView.Http
