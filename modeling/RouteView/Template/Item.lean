import RouteView.Template.Expression
import RouteView.Template.Token

/-!
# Template items

A template is a sequence of texts, comments and expressions: its tokens with the content of every
variable tag read as an expression.  `printItems` writes such a sequence as a template source, every
argument in double quotes and one space inside the braces of a tag.
-/
set_option autoImplicit false
namespace RouteView.Template

inductive Item
  | text (t : Text)
  | comment (content : Text)
  | expression (e : Expression)
deriving DecidableEq

def Token.item : Token → Except ExpressionFault Item
  | text t => .ok (.text t)
  | comment content => .ok (.comment content)
  | reference content => (Expression.parse content).map .expression

def Filter.print (f : Filter) : Text :=
  '|' :: f.name ++
    match f.argument with
    | none => []
    | some argument => ':' :: '"' :: argument ++ ['"']

def Expression.print (e : Expression) : Text := e.path ++ e.filters.flatMap Filter.print

/-- A tag with one space inside its braces. -/
def Tag.print (tag : Tag) (content : Text) : Text := tag.opener ++ ' ' :: content ++ ' ' :: tag.closer

def Item.print : Item → Text
  | text t => t
  | comment content => Tag.comment.print content
  | expression e => Tag.reference.print e.print

def printItems (items : List Item) : Text := items.flatMap Item.print

inductive TemplateFault
  | unclosed (tag : Tag)
  | expression (fault : ExpressionFault)
deriving DecidableEq

def TemplateFault.message : TemplateFault → Text
  | unclosed tag => tag.unclosedMessage
  | expression fault => fault.message

/-- The items of a source.  A tag that is never closed counts before any fault of an expression. -/
def readItems (source : Text) : Except TemplateFault (List Item) :=
  match tokenize source with
  | .error tag => .error (.unclosed tag)
  | .ok tokens => (tokens.mapM Token.item).mapError .expression

end RouteView.Template
