import RouteView.CommandLine.Execution

/-!
# The guestbook program

Reads the files that a command may need, runs the command, and prints what it leaves behind.
-/
set_option autoImplicit false
namespace RouteView

def readEnvironment : IO Environment := do
  let names := ["TRELLIS_DEBUG", "TRELLIS_LOG_LEVEL", "TRELLIS_BIND_ADDRESS", "TRELLIS_VIEW_DIRS",
    "TRELLIS_VIEW_EXTENSION", "TRELLIS_LAYOUT"]
  let found ← names.filterMapM fun name => do
    return (← IO.getEnv name).map fun value => (name.toList, value.toList)
  return fun name => found.lookup name

/-- The files of some paths; what cannot be opened is left out. -/
def readTree (paths : List Text) : IO FileTree := do
  let found ← paths.filterMapM fun path => do
    try
      let bytes ← IO.FS.readBinFile (String.ofList path)
      return some (path, FileEntry.file ((String.fromUTF8? bytes).map String.toList))
    catch _ => return none
  return FileTree.ofPaths found

def report (e : CommandLine.Exit) : IO UInt32 := do
  (← IO.getStdout).putStr (String.ofList e.output)
  (← IO.getStderr).putStr (String.ofList e.complaint)
  return UInt32.ofNat e.code

end RouteView

open RouteView in
def main (args : List String) : IO UInt32 := do
  let env ← readEnvironment
  match CommandLine.read (args.map String.toList) with
  | .error refusal => report refusal.exit
  | .ok call =>
      let configuration ← readTree call.config.toList
      let views ← match CommandLine.settings configuration env call.config with
        | .ok s => readTree (CommandLine.viewPaths s)
        | .error _ => pure FileTree.empty
      match CommandLine.run { views with entries := configuration.entries ++ views.entries } env call with
      | .exit e => report e
      | .serving _ address =>
          report ⟨1, [], "Error: cannot listen on " ++ address.host ++ "\n"⟩
      | .aborted => return 101
