import RouteView.Value.Writer

/-!
# Parameter sources

What a URL is assembled from: a function from names to texts.  In a list the first entry of a name
counts; in a dictionary there is only one; in an object null counts as absent and texts stand without
quotes.
-/
set_option autoImplicit false
namespace RouteView

/-- The text of a parameter, if it has one. -/
abbrev Parameters := Text → Option Text

namespace Parameters

def ofList (entries : List (Text × Text)) : Parameters := fun name => entries.lookup name

def ofDictionary (entries : Dictionary Text) : Parameters := fun name => entries.get? name

def ofObject (data : Data) : Parameters := fun name =>
  match data.get? name with
  | none | some .null => none
  | some (.text t) => some t
  | some value => some value.json

/-- Plain notation for every exponent, no point in a whole number, ties upward. -/
def floatFormat : Decimal.Format := ⟨.up, none, false⟩

end Parameters
end RouteView
