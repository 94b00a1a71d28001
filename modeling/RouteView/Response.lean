import RouteView.Fault
import RouteView.Value.Writer

/-!
# Responses

A response has a status, header fields, a body and a content type.  A redirect can only go to a location
of printable ASCII characters and tabs.  `Response.reply` is what is sent: a text type gets its
character set, and each header field of the response replaces an earlier one of its name, as
`Headers.get?_set` says of a single one.
-/
set_option autoImplicit false
namespace RouteView

/-- Header fields in the order in which they were added; names are in lower case. -/
abbrev Headers := List (Text × Text)

structure Response where
  status : Nat
  headers : Headers
  body : Text
  contentType : Text
deriving DecidableEq

structure Reply where
  status : Nat
  headers : Headers
  body : Text
deriving DecidableEq

namespace Headers

/-- The fields with `value` as the only one of its name. -/
def set (name value : Text) : Headers → Headers
  | [] => [(name, value)]
  | (other, old) :: rest =>
      if other = name then (name, value) :: rest.filter (·.1 ≠ name) else (other, old) :: set name value rest

/-- The fields with one more, its name in lower case. -/
def append (headers : Headers) (name value : Text) : Headers :=
  headers ++ [(name.map Char.toLower, value)]

def get? (headers : Headers) (name : Text) : Option Text := headers.lookup name

theorem lookup_filter_ne {name other : Text} (h : other ≠ name) (headers : Headers) :
    List.lookup other (headers.filter (·.1 ≠ name)) = List.lookup other headers := by
  induction headers with
  | nil => rfl
  | cons field rest ih =>
      obtain ⟨key, value⟩ := field
      by_cases hk : key = name
      · subst hk
        rw [List.filter_cons_of_neg (by simp), ih, List.lookup_cons, beq_eq_false_iff_ne.mpr h]
      · rw [List.filter_cons_of_pos (by simpa using hk), List.lookup_cons, List.lookup_cons, ih]

theorem get?_set (headers : Headers) (name value other : Text) :
    get? (set name value headers) other = if other = name then some value else get? headers other := by
  induction headers with
  | nil => by_cases h : other = name <;> simp [set, get?, List.lookup_singleton, h]
  | cons field rest ih =>
      obtain ⟨key, old⟩ := field
      simp only [set, get?] at ih ⊢
      by_cases hk : key = name
      · subst hk
        by_cases h : other = key
        · simp [h]
        · rw [if_pos rfl, if_neg h, List.lookup_cons, List.lookup_cons, beq_eq_false_iff_ne.mpr h]
          exact lookup_filter_ne h rest
      · rw [if_neg hk, List.lookup_cons, List.lookup_cons, ih]
        by_cases h : other = key
        · subst h
          simp [hk]
        · rw [beq_eq_false_iff_ne.mpr h]

end Headers

/-- Characters of a header value: tab, and everything that is not an ASCII control character. -/
def isHeaderChar (c : Char) : Bool := c = '\t' || (0x20 ≤ c.toNat && c.toNat ≠ 0x7F)

/-- Characters of a location: tab and printable ASCII. -/
def isLocationChar (c : Char) : Bool := c = '\t' || (0x20 ≤ c.toNat && c.toNat ≤ 0x7E)

namespace Response

def locationName : Text := "location"

def contentTypeName : Text := "content-type"

def new (status : Nat) (body : Text) : Response := ⟨status, [], body, "text/html"⟩

def ok (body : Text) : Response := new 200 body

def notFound (body : Text) : Response := new 404 body

def redirect (url : Text) : Attempt Response :=
  if url.all isLocationChar then .ok { new 302 [] with headers := [(locationName, url)] }
  else .error (.internal ("Redirect location '" ++ url ++ "' is not a valid header value"))

/-- The location, if it is printable. -/
def location (r : Response) : Option Text :=
  (r.headers.get? locationName).filter fun url => url.all isLocationChar

def isRedirect (r : Response) : Bool := 300 ≤ r.status && r.status < 400

def sentType (r : Response) : Text :=
  if ("text/" : Text).isPrefixOf r.contentType then r.contentType ++ "; charset=utf-8" else r.contentType

/-- The type of a reply whose own one cannot be sent. -/
def plainType : Text := "text/plain; charset=utf-8"

def reply (r : Response) : Reply :=
  let contentType := if r.sentType.all isHeaderChar then r.sentType else plainType
  let start : Headers := [(contentTypeName, contentType)]
  ⟨r.status, r.headers.foldl (fun headers (name, value) => headers.set name value) start, r.body⟩

end Response
end RouteView
