import RouteView.RouteTable.Indexed

/-!
# Requests

While a request is answered its path and captures stay as they are; callbacks change only its page: the
view data, the view, the layout, and the address of a redirect.  `Change` lists what they can do to it; a
redirect to a named route whose URL cannot be built changes nothing.
-/
set_option autoImplicit false
namespace RouteView

/-- The part of a request that callbacks change. -/
structure Page where
  data : Data
  view : Option Text
  layout : Option Text
  redirect : Option Text

structure Request where
  /-- The path with its query. -/
  path : Text
  captures : Captures
  page : Page

/-- What a callback sees besides the page: the request, and the routes for building URLs. -/
structure Context where
  path : Text
  captures : Captures
  routes : IndexedTable Unit

namespace Page

def empty : Page := ⟨[], none, none, none⟩

def set (page : Page) (key : Text) (value : Value) : Page :=
  { page with data := page.data.insert key value }

def remove (page : Page) (key : Text) : Page := { page with data := page.data.erase key }

end Page

namespace Request

def empty : Request := ⟨[], [], Page.empty⟩

/-- A new request for a path, with a layout and data to begin with. -/
def new (path : Text) (layout : Option Text) (data : Data) : Request :=
  ⟨path, [], ⟨data, none, layout, none⟩⟩

def context (s : Request) (routes : IndexedTable Unit) : Context := ⟨s.path, s.captures, routes⟩

end Request

namespace Context

def param? (ctx : Context) (name : Text) : Option Text := ctx.captures.lookup name

def url (ctx : Context) (name : Text) (params : Parameters) : Attempt Text := ctx.routes.reverse name params

end Context

inductive Change
  | set (key : Text) (value : Value)
  | remove (key : Text)
  | setView (view : Text)
  | clearView
  | setLayout (layout : Text)
  | clearLayout
  | redirect (name : Text) (params : Parameters)
  | redirectTo (url : Text)

/-- The page after a change.  A redirect to a named route fails when its URL cannot be built. -/
def Change.apply (ctx : Context) (page : Page) : Change → Attempt Page
  | set key value => .ok (page.set key value)
  | remove key => .ok (page.remove key)
  | setView view => .ok { page with view := some view }
  | clearView => .ok { page with view := none }
  | setLayout layout => .ok { page with layout := some layout }
  | clearLayout => .ok { page with layout := none }
  | redirect name params => (ctx.url name params).map fun url => { page with redirect := some url }
  | redirectTo url => .ok { page with redirect := some url }

/-- The page after a change, which is the same page when the change fails. -/
def Change.perform (ctx : Context) (page : Page) (c : Change) : Page :=
  match c.apply ctx page with
  | .ok changed => changed
  | .error _ => page

def Change.performAll (ctx : Context) (page : Page) (changes : List Change) : Page :=
  changes.foldl (perform ctx) page

/-- The changes up to the first one that fails, and its fault. -/
def Change.untilFault (ctx : Context) (page : Page) : List Change → Attempt Unit × List Change
  | [] => (.ok (), [])
  | c :: rest =>
      match c.apply ctx page with
      | .error fault => (.error fault, [])
      | .ok page =>
          let (result, made) := untilFault ctx page rest
          (result, c :: made)

/-- The request after changes of its page. -/
def Request.after (s : Request) (routes : IndexedTable Unit) (changes : List Change) : Request :=
  { s with page := Change.performAll (s.context routes) s.page changes }

end RouteView
