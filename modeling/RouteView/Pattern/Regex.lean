import RouteView.Pattern.Segments

/-!
# The regular expression of a pattern

A pattern is also a regular expression: literals with every metacharacter escaped, a capture group for
each parameter, and an optional group without capture for each optional group.  Expressions that nest
too deeply are refused.
-/
set_option autoImplicit false
namespace RouteView.Segments

def metacharacters : List Char := "\\.+*?()|[]\x7b\x7d^$#&-~".toList

def escapeMeta (text : Text) : Text := text.flatMap fun c => if c ∈ metacharacters then ['\\', c] else [c]

/-- The expression between its two anchors. -/
def expression : Segments → Text
  | nil => []
  | literal text rest => escapeMeta text ++ expression rest
  | parameter _ rest => "([^/]+)" ++ expression rest
  | optional children rest => "(?:" ++ expression children ++ ")?" ++ expression rest

theorem expression_literal (text : Text) (rest : Segments) :
    expression (literal text rest) = escapeMeta text ++ expression rest := rfl

theorem expression_parameter (name : Text) (rest : Segments) :
    expression (parameter name rest) = ['(', '[', '^', '/', ']', '+', ')'] ++ expression rest := rfl

theorem expression_optional (children rest : Segments) :
    expression (optional children rest) =
      '(' :: '?' :: ':' :: expression children ++ [')', '?'] ++ expression rest := rfl

def regex (segments : Segments) : Text := '^' :: expression segments ++ ['$']

def groupNames : Segments → List Text
  | nil => []
  | literal _ rest => groupNames rest
  | parameter name rest => name :: groupNames rest
  | optional children rest => groupNames children ++ groupNames rest

/-- The number of elements of an expression, a literal having one per character. -/
def elements : Segments → Nat
  | nil => 0
  | literal text rest => text.length + elements rest
  | parameter _ rest | optional _ rest => 1 + elements rest

/-- The nesting of the deepest element: three for a parameter, two more than its content for a group,
and one more again when the content has several elements. -/
def deepest : Segments → Nat
  | nil => 0
  | literal _ rest => deepest rest
  | parameter _ rest => max 3 (deepest rest)
  | optional children rest =>
      max (2 + ((if 1 < elements children then 1 else 0) + deepest children)) (deepest rest)

/-- The nesting of the whole expression, whose anchors make it a sequence of several elements. -/
def nesting (segments : Segments) : Nat := 1 + deepest segments

/-- The deepest nesting that an expression may have. -/
def nestingLimit : Nat := 250

end RouteView.Segments
