import RouteView.Application.Dispatch
import RouteView.Guestbook.Entry

/-!
# The guestbook application

A landing page with the latest entry, a page for each entry, an archive by year and month, links of an
older address that forward to the entries, and a fixed page.  The start of every request provides the
addresses of the navigation, and every failure shows one error page.
-/
set_option autoImplicit false
namespace RouteView.Guestbook
variable {ω : Type}

def noParameters : Parameters := fun _ => none

/-- The text of an argument; the empty text when it has none. -/
def argument (bound : Bound) (name : Text) : Text := (bound.getText? name).getD []

def entryAddress (ctx : Context) (id : Text) : Attempt Text :=
  ctx.url "entry" (.ofList [("id", id)])

/-- The latest entry and its address. -/
def home (ctx : Context) (_ : Bound) : Attempt (List Change) := do
  let latest := entries.getLast?
  let url ← match latest with
    | some entry => entryAddress ctx (Text.ofNat entry.id)
    | none => ctx.url "entry" noParameters
  return [.set "latest" ((latest.map Entry.toValue).getD .null), .set "latest_url" (.text url)]

def entryPage (_ : Context) (bound : Bound) : Attempt (List Change) :=
  let id := argument bound "id"
  match findEntry? id with
  | none => .error (.handler ("No entry with id '" ++ id ++ "'"))
  | some entry => .ok [.set "title" (.text ("Entry " ++ id)), .set "entry" entry.toValue]

def archive (_ : Context) (bound : Bound) : Attempt (List Change) :=
  let year := bound.getText? "year"
  let month := bound.getText? "month"
  let given (text : Option Text) : Value := (text.map Value.text).getD .null
  .ok [.set "year" (given year), .set "month" (given month),
    .set "count" (.int (entries.countP (Entry.isFrom year month)))]

/-- An older address of an entry forwards to its page. -/
def forward (_ : Context) (bound : Bound) : Attempt (List Change) :=
  .ok [.redirect "entry" (.ofList [("id", argument bound "id")])]

def start (ctx : Context) (_ : Bound) : Attempt (List Change) := do
  let home ← ctx.url "home" noParameters
  let archive ← ctx.url "archive" noParameters
  return [.set "home_url" (.text home), .set "archive_url" (.text archive)]

def errorPage (bound : Bound) : Text :=
  let status := ((bound.get? "status").getD .null).json
  "<h1>Something went wrong (" ++ status ++ ")</h1><pre>" ++ argument bound "error" ++ "</pre>"

def aboutView : Text := "<p>A guestbook served by trellis.</p>"

/-- The guestbook without its routes. -/
def bare (s : Settings) : Application ω :=
  { (Application.ofSettings s).setData "site" (.text "trellis guestbook") with
    onStart := some (.ofChanges [] start)
    onError := some (.ofBody [.required "error", .withDefault "status" (.int 500)] errorPage) }

/-- The guestbook under some settings. -/
def site (s : Settings) : Attempt (Application ω) := do
  let app ← (bare s).route "home" "/" (some "home") (some (.ofChanges [] home))
  let app ← app.route "entry" "/entries/:id" (some "entries/show")
    (some (.ofChanges [.required "id"] entryPage))
  let app ← app.route "archive" "/archive[/:year[/:month]]" (some "archive")
    (some (.ofChanges [.optional "year", .optional "month"] archive))
  let app ← app.route "legacy" "/entry.php/:id" none (some (.ofChanges [.required "id"] forward))
  app.route "about" "/about" (some aboutView) none

end RouteView.Guestbook
