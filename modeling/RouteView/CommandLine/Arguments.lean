import RouteView.Text.Basic

/-!
# Command-line arguments

A command line names one command.  Options may stand before and after it: a long one begins with two
dashes and has its value behind an equals sign or in the next argument, a short one begins with one dash
and may have its value right behind it.  A value in an argument of its own does not look like an option.
After two dashes alone there are only words.

Arguments are read from left to right, and the first that does not fit, or asks for help, ends the
reading.
-/
set_option autoImplicit false
namespace RouteView.CommandLine

inductive Switch
  | config
  | addr
  | status
  | help
deriving DecidableEq

namespace Switch

def long : Switch → Text
  | config => "config"
  | addr => "addr"
  | status => "status"
  | help => "help"

def short? : Switch → Option Char
  | config => some 'c'
  | help => some 'h'
  | addr | status => none

def takesValue : Switch → Bool
  | config | addr => true
  | status | help => false

end Switch

inductive Refusal
  | help
  | usage
deriving DecidableEq

inductive Command
  | serve (address : Option Text)
  | render (path : Text) (status : Bool)
  | routes
deriving DecidableEq

structure Invocation where
  config : Option Text
  command : Command
deriving DecidableEq

/-- What stands at the front of a command line. -/
inductive Item
  | separator
  | switch (s : Switch) (value : Text)
  | word (w : Text)

/-- An item, and the arguments behind it, fewer than `count`. -/
structure Step (count : Nat) where
  item : Item
  rest : List Text
  fewer : rest.length < count

/-- Whether an argument looks like an option; a single dash does not. -/
def looksLikeOption : Text → Bool
  | '-' :: _ :: _ => true
  | _ => false

/-- A switch with the value attached to it or, failing that, the next argument. -/
def withValue (s : Switch) (attached : Option Text) (rest : List Text) :
    Except Refusal (Step (rest.length + 1)) :=
  match attached, rest with
  | some value, rest => .ok ⟨.switch s value, rest, by simp⟩
  | none, value :: rest =>
      if looksLikeOption value then .error .usage
      else .ok ⟨.switch s value, rest, by simp only [List.length_cons]; omega⟩
  | none, [] => .error .usage

def useSwitch (s : Switch) (attached : Option Text) (rest : List Text) :
    Except Refusal (Step (rest.length + 1)) :=
  if s.takesValue then withValue s attached rest
  else if attached.isSome then .error .usage
  else if s = .help then .error .help
  else .ok ⟨.switch s [], rest, by simp⟩

def splitLong (body : Text) : Text × Option Text :=
  match Text.cutAt '=' body with
  | some (name, value) => (name, some value)
  | none => (body, none)

def attachedShort : Text → Option Text
  | [] => none
  | '=' :: value => some value
  | value => some value

/-- The item at the front of a command line on which the switches `known` may stand. -/
def front (known : List Switch) (arg : Text) (rest : List Text) :
    Except Refusal (Step (rest.length + 1)) :=
  match arg with
  | ['-', '-'] => .ok ⟨.separator, rest, by simp⟩
  | '-' :: '-' :: body =>
      match known.find? (·.long = (splitLong body).1) with
      | none => .error .usage
      | some s => useSwitch s (splitLong body).2 rest
  | '-' :: c :: body =>
      match known.find? (·.short? = some c) with
      | none => .error .usage
      | some s =>
          if s.takesValue then withValue s (attachedShort body) rest else useSwitch s none rest
  | word => .ok ⟨.word word, rest, by simp⟩

structure Given where
  switches : List (Switch × Text)
  words : List Text

namespace Given

def none : Given := ⟨[], []⟩

def value? (given : Given) (s : Switch) : Option Text := given.switches.lookup s

/-- One more switch; no switch may be given twice. -/
def addSwitch (given : Given) (s : Switch) (value : Text) : Except Refusal Given :=
  if (given.value? s).isSome then .error .usage
  else .ok { given with switches := (s, value) :: given.switches }

/-- One more word of at most `places`. -/
def addWord (places : Nat) (given : Given) (word : Text) : Except Refusal Given :=
  if given.words.length < places then .ok { given with words := given.words ++ [word] }
  else .error .usage

end Given

/-- The arguments of a command that knows some switches and has places for some words. -/
def readArguments (known : List Switch) (places : Nat) (given : Given) (args : List Text) :
    Except Refusal Given :=
  match args with
  | [] => .ok given
  | arg :: rest =>
      match front known arg rest with
      | .error refusal => .error refusal
      | .ok ⟨.separator, words, _⟩ => words.foldlM (Given.addWord places) given
      | .ok ⟨.switch s value, more, _⟩ => do
          readArguments known places (← given.addSwitch s value) more
      | .ok ⟨.word word, more, _⟩ => do
          readArguments known places (← given.addWord places word) more
  termination_by args.length

/-- Help is given on everything at once or on one command. -/
def readHelp : List Text → Refusal
  | [] => .help
  | [name] =>
      if name ∈ ["serve".toList, "render".toList, "routes".toList, "help".toList] then .help else .usage
  | _ => .usage

/-- A settings file named behind the command counts more than one before it. -/
def invoke (before after : Given) (command : Command) : Invocation :=
  ⟨(after.value? .config).or (before.value? .config), command⟩

/-- The command of a name with its arguments. -/
def readNamed (before : Given) (name : Text) (args : List Text) : Except Refusal Invocation :=
  if name = "serve".toList then do
    let given ← readArguments [.config, .addr, .help] 0 .none args
    return invoke before given (.serve (given.value? .addr))
  else if name = "render".toList then do
    let given ← readArguments [.config, .status, .help] 1 .none args
    match given.words with
    | [] => .error .usage
    | path :: _ => return invoke before given (.render path (given.value? .status).isSome)
  else if name = "routes".toList then do
    let given ← readArguments [.config, .help] 0 .none args
    return invoke before given .routes
  else if name = "help".toList then .error (readHelp args)
  else .error .usage

/-- The options before the command, then the command. -/
def readCommand (given : Given) (args : List Text) : Except Refusal Invocation :=
  match args with
  | [] => .error .usage
  | arg :: rest =>
      match front [.config, .help] arg rest with
      | .error refusal => .error refusal
      | .ok ⟨.separator, _, _⟩ => .error .usage
      | .ok ⟨.switch s value, more, _⟩ => do readCommand (← given.addSwitch s value) more
      | .ok ⟨.word name, more, _⟩ => readNamed given name more
  termination_by args.length

def read (args : List Text) : Except Refusal Invocation := readCommand .none args

end RouteView.CommandLine
