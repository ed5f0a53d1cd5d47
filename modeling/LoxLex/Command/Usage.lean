import LoxLex.Command.Options
import LoxLex.Text.Likeness
import LoxLex.Text.Terminal

/-!
# Usage texts

A mistake in the arguments is answered with what is wrong, sometimes a tip, and a usage line. The usage line
is the general one, or it shows the arguments at hand: after a mistyped flag those that were given and the
flag that may have been meant, after a value for a flag that flag or the group it belongs to.
-/

namespace LoxLex

def Flag.text (f : Flag) : String := "--" ++ f.long

def Flag.meant? (name : String) : Option Flag :=
  (Likeness.closest? name (all.map long)).bind ofLong?

def usageLine (parts : List String) : String := " ".intercalate ("Usage: lox-scan" :: parts) ++ "\n\n"

def generalUsage : String := usageLine ["[OPTIONS]", "[SCRIPT]"]

def anyArgument : String := "<SCRIPT|--quiet|--verbose>"

namespace Given

def usage (g : Given) (meant : Option Flag) : String :=
  let flags := g.flags ++ meant.toList.filter (· ∉ g.flags)
  if flags = [] ∧ g.script = none then generalUsage
  else usageLine (flags.map Flag.text ++ [if g.script = none then "[SCRIPT]" else "<SCRIPT>"])

/-- The usage line for a flag that takes no value. Once flags were given, the arguments of a run stand
together as a group. -/
def usageOfFlag (g : Given) (f : Flag) : String :=
  if g.flags = [] then usageLine [f.text, "[SCRIPT]"]
  else
    match f with
    | .quiet | .verbose => usageLine [anyArgument]
    | .help | .version => usageLine [f.text, anyArgument]

end Given

namespace UsageError

/-- What was typed is quoted as a terminal would show it. -/
def quoted (arg : String) : String := "'" ++ Terminal.visible arg ++ "'"

def message : UsageError → String
  | .unknownShort c => "unexpected argument " ++ quoted ("-" ++ String.singleton c) ++ " found"
  | .unknownLong name _ => "unexpected argument " ++ quoted ("--" ++ name) ++ " found"
  | .extraArgument arg => "unexpected argument " ++ quoted arg ++ " found"
  | .repeatedFlag f => "the argument '" ++ f.text ++ "' cannot be used multiple times"
  | .valueForFlag f v _ =>
    "unexpected value " ++ quoted v ++ " for '" ++ f.text ++ "' found; no more were expected"
  | .missingScript => "a value is required for '[SCRIPT]' but none was supplied"

def tipLine (tip : String) : String := "  tip: " ++ tip ++ "\n\n"

def asValue (arg : String) : String :=
  tipLine ("to pass " ++ quoted arg ++ " as a value, use " ++ quoted ("-- " ++ arg))

def tip : UsageError → String
  | .unknownShort c => asValue ("-" ++ String.singleton c)
  | .unknownLong name _ =>
    match Flag.meant? name with
    | some f => tipLine ("a similar argument exists: '" ++ f.text ++ "'")
    | none => asValue ("--" ++ name)
  | _ => ""

def usage : UsageError → String
  | .unknownLong name g => g.usage (Flag.meant? name)
  | .valueForFlag f _ g => g.usageOfFlag f
  | .missingScript => ""
  | _ => generalUsage

def text (e : UsageError) : String :=
  "error: " ++ e.message ++ "\n\n" ++ e.tip ++ e.usage ++ "For more information, try '--help'.\n"

end UsageError

def versionText : String := "lox-scan 0.1.0\n"

def helpLines : List String :=
  ["Prints the tokens of a Lox script, or of each line typed at the prompt",
   "",
   "Usage: lox-scan [OPTIONS] [SCRIPT]",
   "",
   "Arguments:",
   "  [SCRIPT]  Script to scan. Starts an interactive prompt when omitted",
   "",
   "Options:",
   "  -q, --quiet    Only print diagnostics, not the token listing",
   "  -v, --verbose  Log scanner activity at debug level",
   "  -h, --help     Print help",
   "  -V, --version  Print version"]

def helpText : String := .join (helpLines.map (· ++ "\n"))

end LoxLex
