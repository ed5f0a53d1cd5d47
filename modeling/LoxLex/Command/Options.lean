/-!
# Arguments

Arguments are read from left to right. Asking for the help or the version ends the reading at once, and so
does the first mistake, except that a script without a name is only noticed at the next flag or at the end.
-/

namespace LoxLex

inductive Flag
  | quiet | verbose | help | version
deriving DecidableEq

namespace Flag

def all : List Flag := [.quiet, .verbose, .help, .version]

def long : Flag → String
  | .quiet => "quiet"
  | .verbose => "verbose"
  | .help => "help"
  | .version => "version"

def short : Flag → Char
  | .quiet => 'q'
  | .verbose => 'v'
  | .help => 'h'
  | .version => 'V'

def ofLong? (name : String) : Option Flag := all.find? fun f => f.long = name

def ofShort? (c : Char) : Option Flag := all.find? fun f => f.short = c

end Flag

structure Options where
  quiet : Bool
  verbose : Bool
  script : Option String
deriving DecidableEq

structure Given where
  flags : List Flag
  script : Option String
deriving DecidableEq

def Given.options (g : Given) : Options :=
  ⟨g.flags.contains .quiet, g.flags.contains .verbose, g.script⟩

inductive Request
  | run (options : Options)
  | help
  | version
deriving DecidableEq

inductive UsageError
  | unknownShort (c : Char)
  | unknownLong (name : String) (given : Given)
  | extraArgument (arg : String)
  | repeatedFlag (flag : Flag)
  | valueForFlag (flag : Flag) (value : String) (given : Given)
  | missingScript
deriving DecidableEq

/-! ## Reading -/

inductive Argument
  | endOfOptions
  | long (name : String) (value : Option String)
  | short (flags : List Char)
  | positional (text : String)
deriving DecidableEq

def Argument.ofString (arg : String) : Argument :=
  match arg.toList with
  | ['-', '-'] => .endOfOptions
  | '-' :: '-' :: cs =>
    match cs.dropWhile (· ≠ '=') with
    | _ :: value => .long (.ofList (cs.takeWhile (· ≠ '='))) (some (.ofList value))
    | [] => .long (.ofList cs) none
  | '-' :: c :: cs => .short (c :: cs)
  | _ => .positional arg

inductive Stop
  | mistake (e : UsageError)
  | request (r : Request)
deriving DecidableEq

namespace Given

def checkScript (g : Given) : Except Stop Unit :=
  if g.script = some "" then .error (.mistake .missingScript) else .ok ()

def addFlag (g : Given) (f : Flag) : Except Stop Given := do
  g.checkScript
  match f with
  | .help => .error (.request .help)
  | .version => .error (.request .version)
  | .quiet | .verbose =>
    if f ∈ g.flags then .error (.mistake (.repeatedFlag f)) else .ok { g with flags := g.flags ++ [f] }

def addShort (g : Given) (c : Char) : Except Stop Given :=
  match Flag.ofShort? c with
  | some f => g.addFlag f
  | none => .error (.mistake (.unknownShort c))

def addLong (g : Given) (name : String) (value : Option String) : Except Stop Given :=
  match Flag.ofLong? name, value with
  | some f, none => g.addFlag f
  | some f, some v => .error (.mistake (.valueForFlag f v g))
  | none, _ => .error (.mistake (.unknownLong name g))

def addScript (g : Given) (arg : String) : Except Stop Given :=
  match g.script with
  | none => .ok { g with script := some arg }
  | some _ => .error (.mistake (.extraArgument arg))

/-- Takes in arguments; none of them is an option when `trailing` is set. -/
def addAll (g : Given) (trailing : Bool) : List String → Except Stop Given
  | [] => do
    g.checkScript
    .ok g
  | arg :: args => do
    if trailing then
      (← g.addScript arg).addAll true args
    else
      match Argument.ofString arg with
      | .endOfOptions => g.addAll true args
      | .long name value => (← g.addLong name value).addAll false args
      | .short cs => (← cs.foldlM addShort g).addAll false args
      | .positional arg => (← g.addScript arg).addAll false args

end Given

def Request.ofArguments (args : List String) : Except UsageError Request :=
  match Given.addAll ⟨[], none⟩ false args with
  | .ok g => .ok (.run g.options)
  | .error (.request r) => .ok r
  | .error (.mistake e) => .error e

end LoxLex
