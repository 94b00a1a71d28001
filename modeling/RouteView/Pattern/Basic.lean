import RouteView.Pattern.Assembly
import RouteView.Pattern.Matching
import RouteView.Pattern.Regex

/-!
# Path patterns

A pattern is the wildcard, which matches every path, or a sequence of segments.  `Pattern.parse` reads a
source and `Pattern.source` gives it back; `captures?` and `assemble` go from a path to texts for the
parameters and from texts to a path.
-/
set_option autoImplicit false
namespace RouteView

inductive Pattern
  | wildcard
  | path (segments : Segments)
deriving DecidableEq

namespace Pattern

def parse? (source : Text) : Except PatternFault Pattern :=
  if source = ['*'] then .ok .wildcard
  else do
    let segments ← Segments.parse source
    if Segments.nestingLimit < segments.nesting then .error .tooDeep else .ok (.path segments)

/-- The pattern of a source, a failure being reported as a malformed pattern. -/
def parse (source : Text) : Attempt Pattern :=
  (parse? source).mapError fun fault => .malformedPattern source fault.reason

def source : Pattern → Text
  | wildcard => ['*']
  | path segments => segments.print

def segments : Pattern → Segments
  | wildcard => .nil
  | path segments => segments

def isWildcard : Pattern → Bool
  | wildcard => true
  | path _ => false

/-- The text of the compiled expression; the wildcard has none. -/
def regex? : Pattern → Option Text
  | wildcard => none
  | path segments => some segments.regex

def parameters (pattern : Pattern) : List Segments.Parameter := pattern.segments.parameters

def captures? : Pattern → Text → Option Captures
  | wildcard, _ => some []
  | path segments, text => segments.captures? text

/-- The path that the parameters give; the wildcard gives its own source. -/
def assemble (route : Text) (params : Parameters) : Pattern → Attempt Text
  | wildcard => .ok ['*']
  | path segments => segments.assemble route params

def inspect (pattern : Pattern) : Text :=
  "RoutePattern \x7b source: " ++ Text.quote pattern.source ++ ", regex: " ++
    Text.quote (pattern.regex?.getD ['*']) ++ ", .. \x7d"

end Pattern
end RouteView
