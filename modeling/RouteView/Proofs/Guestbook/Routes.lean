import RouteView.Guestbook.Site
import RouteView.Proofs.Application.Redirects
import RouteView.Proofs.Request.Binding
import RouteView.Proofs.RouteTable.Provenance

/-!
# Requests to the guestbook

Under any settings the guestbook has the same five routes (`site_eq`).  Its start callback lets every request go on,
no callback has the final word, and whatever fails ends on the error page (`dispatch_of_fault`).
-/
set_option autoImplicit false
namespace RouteView

/-! ## Callbacks that change the page -/

section OfChanges
variable {ω : Type} {signature : Signature} {decide : Context → Bound → Attempt (List Change)} {ctx : Context}
  {args : Arguments} {bound : Bound} {page : Page} {world : ω}

theorem Callback.invoke_writes {changes : List Change} (bind : signature.bind args = .ok bound)
    (decided : decide ctx bound = .ok changes) (writes : Change.Writes changes) :
    (Callback.ofChanges signature decide).invoke ctx args page world = ⟨.ok none, changes, world⟩ := by
  simp only [invoke, ofChanges, bind, decided, writes.untilFault_eq]
  rfl

theorem Callback.invoke_refuses {fault : Fault} (bind : signature.bind args = .ok bound)
    (decided : decide ctx bound = .error fault) :
    (Callback.ofChanges signature decide).invoke ctx args page world = ⟨.error fault, [], world⟩ := by
  simp only [invoke, ofChanges, bind, decided]

end OfChanges

namespace Guestbook
variable {ω : Type}
open Application (Reaches Fails)

/-! ## The routes -/

def homeRoute : Route (Callback ω) := ⟨"home", .path (.literal "/" .nil), some "home", some (.ofChanges [] home)⟩

def entryRoute : Route (Callback ω) :=
  ⟨"entry", .path (.literal "/entries/" (.parameter "id" .nil)), some "entries/show",
    some (.ofChanges [.required "id"] entryPage)⟩

def archiveRoute : Route (Callback ω) :=
  ⟨"archive", .path (.literal "/archive" (.optional (.literal "/" (.parameter "year"
      (.optional (.literal "/" (.parameter "month" .nil)) .nil))) .nil)), some "archive",
    some (.ofChanges [.optional "year", .optional "month"] archive)⟩

def legacyRoute : Route (Callback ω) :=
  ⟨"legacy", .path (.literal "/entry.php/" (.parameter "id" .nil)), none,
    some (.ofChanges [.required "id"] forward)⟩

def aboutRoute : Route (Callback ω) := ⟨"about", .path (.literal "/about" .nil), some aboutView, none⟩

def routes : RouteTable (Callback ω) := [homeRoute, entryRoute, archiveRoute, legacyRoute, aboutRoute]

def book (s : Settings) : Application ω :=
  { bare s with
    routes := ((((IndexedTable.empty.insert homeRoute).insert entryRoute).insert archiveRoute).insert
      legacyRoute).insert aboutRoute }

theorem site_eq (s : Settings) : site (ω := ω) s = .ok (book s) := rfl

section Request
variable {s : Settings} {tree : FileTree} {path id : Text} {world : ω} {found : Resolved (Callback ω)}

theorem table_eq : (book (ω := ω) s).routes.table = routes := rfl

theorem resolve_eq {asked : Text} (asks : Asks path asked) :
    (book (ω := ω) s).resolve path = routes.firstMatch asked := by
  rw [Application.resolve, IndexedTable.resolve, RouteTable.resolve, asks.withoutQuery_eq, table_eq]

theorem home_misses {asked begin : Text} (begins : begin <+: asked) (apart : ¬ begin <+: "/".toList) :
    (homeRoute (ω := ω)).pattern.captures? asked = none := by
  rw [Option.eq_none_iff_forall_ne_some]
  intro captures matched
  have landing : asked = "/".toList := Segments.captures?_literal_nil matched
  exact apart (landing ▸ begins)

theorem resolve_entry (fills : Segments.Fills id) (asks : Asks path ("/entries/" ++ id)) :
    (book (ω := ω) s).resolve path = some ⟨entryRoute, [("id", id)]⟩ := by
  have begins : "/entries/".toList <+: "/entries/" ++ id := List.prefix_append ..
  have matched : (entryRoute (ω := ω)).pattern.captures? ("/entries/" ++ id) = some [("id".toList, id)] :=
    Segments.captures?_literal_parameter.mpr ⟨id, rfl, fills, rfl⟩
  rw [resolve_eq asks, routes, RouteTable.firstMatch, home_misses begins (by decide), RouteTable.firstMatch, matched]

theorem resolve_legacy (fills : Segments.Fills id) (asks : Asks path ("/entry.php/" ++ id)) :
    (book (ω := ω) s).resolve path = some ⟨legacyRoute, [("id", id)]⟩ := by
  have begins : "/entry.php/".toList <+: "/entry.php/" ++ id := List.prefix_append ..
  have entry : (entryRoute (ω := ω)).pattern.captures? ("/entry.php/" ++ id) = none :=
    Segments.captures?_apart begins (by decide)
  have archive : (archiveRoute (ω := ω)).pattern.captures? ("/entry.php/" ++ id) = none :=
    Segments.captures?_apart begins (by decide)
  have matched : (legacyRoute (ω := ω)).pattern.captures? ("/entry.php/" ++ id) = some [("id".toList, id)] :=
    Segments.captures?_literal_parameter.mpr ⟨id, rfl, fills, rfl⟩
  rw [resolve_eq asks, routes, RouteTable.firstMatch, home_misses begins (by decide), RouteTable.firstMatch, entry,
    RouteTable.firstMatch, archive, RouteTable.firstMatch, matched]

/-! ## Requests -/

theorem startCall_eq : (book s).startCall path world =
    ⟨.ok none, [.set "home_url" (.text "/"), .set "archive_url" (.text "/archive")], world⟩ := rfl

theorem letsOn : (book s).LetsOn path world := Or.inl (congrArg Effect.result startCall_eq)

def errorText (fault : Fault) : Text :=
  "<h1>Something went wrong (" ++ Text.ofNat fault.status ++ ")</h1><pre>" ++ fault.message ++ "</pre>"

def errorResponse (fault : Fault) : Response := Response.new fault.status (errorText fault)

theorem dispatch_of_fault {fault : Fault} {st : Request} {w : ω}
    (h : Fails tree (book s) path world (.fault fault) st w) :
    (book s).dispatch tree path world = (some (errorResponse fault), w) := by
  rw [h.dispatch_eq]
  rfl

theorem dispatch_of_refused {fault : Fault} (resolved : (book s).resolve path = some found)
    (refused : ((book s).handlerCall path found world).result = .error fault) (tree : FileTree) :
    ∃ after, (book s).dispatch tree path world = (some (errorResponse fault), after) := by
  have letsOn : (book s).LetsOn path world := letsOn
  have fails := Fails.handler ((letsOn.reaches tree).entered resolved) (Application.call_of_error refused)
  exact ⟨_, dispatch_of_fault fails⟩

/-! ## Handlers -/

/-- The handler of the route, if there is one, succeeds and writes data for the page. -/
def Prepares (s : Settings) (path : Text) (found : Resolved (Callback ω)) (world : ω) : Prop :=
  ∃ changes, Change.Writes changes ∧ (book s).handlerCall path found world = ⟨.ok none, changes, world⟩

section Prepares
variable {captures : Captures}

theorem prepares_of {signature : Signature} {decide : Context → Bound → Attempt (List Change)} {bound : Bound}
    {changes : List Change} (handler : found.route.handler = some (.ofChanges signature decide))
    (bind : signature.bind (Application.handlerArguments path found.captures) = .ok bound)
    (decided : ∀ ctx, ctx.routes = (book (ω := ω) s).routes.addresses → decide ctx bound = .ok changes)
    (writes : Change.Writes changes) : Prepares s path found world := by
  refine ⟨changes, writes, ?_⟩
  rw [Application.handlerCall, startCall_eq, handler]
  exact Callback.invoke_writes bind (decided _ rfl) writes

theorem prepares_home : Prepares s path ⟨homeRoute, captures⟩ world := by
  have decided : ∀ ctx, ctx.routes = (book (ω := ω) s).routes.addresses → home ctx [] =
      .ok [.set "latest" ((entries.getLast?.map Entry.toValue).getD .null),
        .set "latest_url" (.text "/entries/3")] := by
    rintro ⟨path, captures, _⟩ rfl
    rfl
  exact prepares_of rfl rfl decided (Change.writes_cons (Change.writes_cons Change.writes_nil))

theorem prepares_about : Prepares s path ⟨aboutRoute, captures⟩ world := by
  refine ⟨[], Change.writes_nil, ?_⟩
  rw [Application.handlerCall, startCall_eq]
  rfl

theorem prepares_archive : Prepares s path ⟨archiveRoute, captures⟩ world := by
  have bind : Signature.bind (Application.handlerArguments path captures) [.optional "year", .optional "month"] =
      .ok [("year", (Application.handlerArguments path captures "year").getD .null),
        ("month", (Application.handlerArguments path captures "month").getD .null)] := by
    simp only [Signature.bind, Parameter.resolve_optional]
    rfl
  exact prepares_of rfl bind (fun _ _ => rfl)
    (Change.writes_cons (Change.writes_cons (Change.writes_cons Change.writes_nil)))

theorem prepares_entry {entry : Entry} (known : findEntry? id = some entry) :
    Prepares s path ⟨entryRoute, [("id", id)]⟩ world := by
  have decided : ∀ ctx, entryPage ctx [("id", .text id)] =
      .ok [.set "title" (.text ("Entry " ++ id)), .set "entry" entry.toValue] := by
    intro ctx
    have asked : argument [("id", .text id)] "id" = id := rfl
    simp only [entryPage, asked, known]
  exact prepares_of rfl rfl (fun ctx _ => decided ctx) (Change.writes_cons (Change.writes_cons Change.writes_nil))

end Prepares

def missing (id : Text) : Fault := .handler ("No entry with id '" ++ id ++ "'")

theorem handlerCall_missing (unknown : findEntry? id = none) :
    (book s).handlerCall path ⟨entryRoute, [("id", id)]⟩ world = ⟨.error (missing id), [], world⟩ := by
  have decided : ∀ ctx, entryPage ctx [("id", .text id)] = .error (missing id) := by
    intro ctx
    have asked : argument [("id", .text id)] "id" = id := rfl
    simp only [entryPage, asked, unknown]
    rfl
  have bind : Signature.bind (Application.handlerArguments path [("id", id)]) [.required "id"] =
      .ok [("id", .text id)] := rfl
  rw [Application.handlerCall, startCall_eq]
  exact Callback.invoke_refuses bind (decided _)

theorem dispatch_missing (resolved : (book (ω := ω) s).resolve path = some ⟨entryRoute, [("id", id)]⟩)
    (unknown : findEntry? id = none) (tree : FileTree) (world : ω) :
    ∃ after, (book s).dispatch tree path world = (some (errorResponse (missing id)), after) := by
  have refused : ((book s).handlerCall path ⟨entryRoute, [("id", id)]⟩ world).result = .error (missing id) :=
    congrArg Effect.result (handlerCall_missing unknown)
  exact dispatch_of_refused resolved refused tree

theorem handlerCall_legacy : (book s).handlerCall path ⟨legacyRoute, [("id", id)]⟩ world =
    ⟨.ok none, [.redirect "entry" (.ofList [("id", id)])], world⟩ := by
  rw [Application.handlerCall, startCall_eq]
  rfl

/-- What the handler prepares is a page of the view of the route, in the layout of the settings. -/
theorem Prepares.reaches (h : Prepares s path found world) (resolved : (book s).resolve path = some found)
    (tree : FileTree) : ∃ st, Reaches tree (book s) path world (.handled none) st world ∧
      st.page.view = found.route.view ∧ st.page.layout = s.layout ∧ st.page.redirect = none := by
  obtain ⟨changes, writes, called⟩ := h
  have result : ((book s).handlerCall path found world).result = .ok none := congrArg Effect.result called
  have silent : ((book s).handlerCall path found world).body = none := by rw [Effect.body, result]
  have kept : ((book s).handlerCall path found world).world = world := congrArg Effect.world called
  have begun : (book s).LetsOn path world := letsOn
  have handled : Reaches tree (book s) path world (.handled ((book s).handlerCall path found world).body)
      ((book s).handlerRequest path found world) ((book s).handlerCall path found world).world :=
    ((begun.reaches tree).entered resolved).handled (Application.call_of_ok result)
  rw [silent, kept] at handled
  refine ⟨_, handled, ?_, ?_, ?_⟩
  · rw [Application.handlerRequest_view, called, startCall_eq, writes.last?_eq_none fun _ _ => rfl]
    exact Option.or_none
  · rw [Application.handlerRequest_layout, called, startCall_eq, Change.last?_append,
      writes.last?_eq_none fun _ _ => rfl]
    rfl
  · rw [Application.handlerRequest_redirect, called, startCall_eq, Change.last?_append,
      writes.last?_eq_none fun _ _ => rfl]
    rfl

end Request
end Guestbook
end RouteView
