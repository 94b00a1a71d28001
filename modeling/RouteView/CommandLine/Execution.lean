import RouteView.CommandLine.Arguments
import RouteView.Guestbook.Site
import RouteView.Guestbook.Views
import RouteView.Http.Address
import RouteView.Settings.Loading

/-!
# Running a command

The guestbook's command line answers one path, lists the routes, or serves.  The settings come from the
file that was named, else from the guestbook's own defaults, in both cases under the environment.  Views
are looked up in the tree where the program works, except that the defaults name the guestbook's own ones.
-/
set_option autoImplicit false
namespace RouteView.CommandLine

structure Exit where
  code : Nat
  output : Text
  complaint : Text
deriving DecidableEq

/-- How a command ends; serving does not end by itself, and an abort leaves nothing. -/
inductive Outcome
  | exit (e : Exit)
  | serving (s : Settings) (address : Http.Address)
  | aborted

structure Failure where
  during : Option Text
  fault : Fault

/-- A text whose lines are all indented. -/
def indent (source : Text) : Text :=
  "    " ++ source.flatMap fun c => if c = '\n' then ("\n    " : Text) else [c]

def Failure.complaint (f : Failure) : Text :=
  match f.during with
  | none => "Error: " ++ f.fault.message ++ "\n"
  | some activity => "Error: " ++ activity ++ "\n\nCaused by:\n" ++ indent f.fault.message ++ "\n"

def settings (tree : FileTree) (env : Environment) : Option Text → Except Failure Settings
  | none => .ok (Guestbook.defaultSettings.override env)
  | some path =>
      (Settings.ofFileWithEnvironment tree env .toml path).mapError fun fault =>
        ⟨some ("loading settings from " ++ path), fault⟩

/-- The tree in which views are looked up: the guestbook's own one as long as neither a file nor the
environment says where views are. -/
def viewTree (tree : FileTree) (env : Environment) (config : Option Text) : FileTree :=
  match config, env "TRELLIS_VIEW_DIRS" with
  | none, none => Guestbook.viewTree
  | _, _ => tree

/-- The reason phrase of the statuses that applications give. -/
def reason : Nat → Text
  | 200 => "OK"
  | 302 => "Found"
  | 404 => "Not Found"
  | 500 => "Internal Server Error"
  | _ => "<unknown status code>"

def statusLines (r : Response) : Text :=
  Text.ofNat r.status ++ " " ++ reason r.status ++ "\n" ++
    match r.location with
    | some url => "Location: " ++ url ++ "\n"
    | none => []

def print (status : Bool) (r : Response) : Text :=
  (if status then statusLines r else []) ++ r.body ++ "\n"

def pad (width : Nat) (source : Text) : Text := source ++ List.replicate (width - source.length) ' '

/-- The line of a route: its name, its pattern, and its view if it has one. -/
def routeLine {η : Type} (route : Route η) : Text :=
  pad 10 route.name ++ " " ++ pad 28 route.pattern.source ++ " " ++ route.view.getD ['-'] ++ "\n"

def succeed (output : Text) : Outcome := .exit ⟨0, output, []⟩

def fail (f : Failure) : Outcome := .exit ⟨1, [], f.complaint⟩

/-- Runs a command on the guestbook, with views from a tree. -/
def perform (tree : FileTree) (s : Settings) (app : Application Unit) : Command → Outcome
  | .serve address =>
      match Http.Address.toListen (address.getD s.bindAddress) with
      | .error fault => fail ⟨none, fault⟩
      | .ok address => .serving s address
  | .render path status =>
      match (app.dispatch tree path ()).1 with
      | none => .aborted
      | some response => succeed (print status response)
  | .routes => succeed (app.routes.table.flatMap routeLine)

def run (tree : FileTree) (env : Environment) (call : Invocation) : Outcome :=
  match settings tree env call.config with
  | .error failure => fail failure
  | .ok s =>
      match Guestbook.site s with
      | .error fault => fail ⟨some "building the guestbook", fault⟩
      | .ok app => perform (viewTree tree env call.config) s app call.command

def summary : Text :=
  "Usage: guestbook [--config FILE] <COMMAND>\n\nCommands:\n" ++
    "  serve [--addr ADDRESS]\n  render [--status] PATH\n  routes\n  help [COMMAND]\n"

def Refusal.exit : Refusal → Exit
  | help => ⟨0, summary, []⟩
  | usage => ⟨2, [], summary⟩

def execute (tree : FileTree) (env : Environment) (args : List Text) : Outcome :=
  match read args with
  | .error refusal => .exit refusal.exit
  | .ok call => run tree env call

/-- The files that a request to the guestbook may read: one for every view in every directory. -/
def viewPaths (s : Settings) : List Text :=
  let views (app : Application Unit) : List Text :=
    app.routes.table.filterMap (fun route => route.view) ++ s.layout.toList
  let file? (view : Text) : Option Text := (Template.Loader.fileName s.viewExtension view).toOption
  match Guestbook.site s with
  | .error _ => []
  | .ok app => s.viewDirs.flatMap fun dir => (views app).filterMap fun view =>
      (file? view).map (FilePath.join dir)

end RouteView.CommandLine
