import LoxLex.Command.Log.Filter
import LoxLex.Command.Usage
import LoxLex.Text.Lines
import LoxLex.Token.Listing

/-!
# Running the program

A run is a list of outputs in order and an exit. With a script, the script is read whole; without one, each
line of the input is read by itself after a prompt. Diagnostics of a script decide the exit, those of a
typed line do not.

Writing is taken to succeed. That an output cannot be written or flushed, which would end a run as an input
does that cannot be read, is left out.
-/

namespace LoxLex

structure Surroundings where
  arguments : List String
  /-- The setting that chooses what is logged, if there is one. -/
  logSetting : Option String
  fileAt : String → Except ReadFailure (List UInt8)
  input : List UInt8

/-! ## Outputs and exits -/

inductive Output
  | prompt
  | listing (tokens : List Token)
  | notice (text : String)
  | diagnostic (d : Diagnostic)
  | log (line : LogLine)
  | failure (why : ReadFailure)
  | usage (e : UsageError)
deriving DecidableEq

namespace Output

def toStdout : Output → String
  | .prompt => "> "
  | .listing ts => LoxLex.listing ts
  | .notice s => s
  | _ => ""

def toStderr : Output → String
  | .diagnostic d => d.text ++ "\n"
  | .log line => line.text ++ "\n"
  | .failure why => why.text ++ "\n"
  | .usage e => e.text
  | _ => ""

end Output

inductive Exit
  | success | usage | lexicalErrors | unreadable
deriving DecidableEq

def Exit.code : Exit → Nat
  | .success => 0
  | .usage => 2
  | .lexicalErrors => 65
  | .unreadable => 74

structure Outcome where
  outputs : List Output
  exit : Exit

namespace Outcome

def stdout (o : Outcome) : String := .join (o.outputs.map Output.toStdout)

def stderr (o : Outcome) : String := .join (o.outputs.map Output.toStderr)

def notice (text : String) : Outcome := ⟨[.notice text], .success⟩

def refusal (e : UsageError) : Outcome := ⟨[.usage e], .usage⟩

end Outcome

/-! ## Parts of a run -/

def lexBytes (bs : List UInt8) : Except ReadFailure (Harvest (Array Diagnostic)) :=
  match decodeUtf8? bs with
  | some source => .ok ((Lexer.ofString source).harvest #[])
  | none => .error .invalidUtf8

structure Settings where
  quiet : Bool
  filter : Filter

namespace Settings

/-- The log setting if it can be read; else warnings, or with `--verbose` everything. -/
def ofOptions (o : Options) (logSetting : Option String) : Settings :=
  ⟨o.quiet, (logSetting.bind Filter.ofString?).getD (.ofLevel (if o.verbose then .debug else .warn))⟩

def log (s : Settings) (r : LogRecord) : List Output := (s.filter.line? r).toList.map .log

def outputs (s : Settings) (h : Harvest (Array Diagnostic)) : List Output :=
  h.events.toList.flatMap (fun e => s.log (.lexing e)) ++
    (if s.quiet then [] else [.listing h.tokens.toList]) ++
    h.sink.toList.map .diagnostic

def giveUp (s : Settings) (why : ReadFailure) : List Output := s.log (.unreadable why) ++ [.failure why]

def script (s : Settings) (path : String) (content : Except ReadFailure (List UInt8)) : Outcome :=
  let opening := s.log (.readingFile path)
  match content.bind lexBytes with
  | .error why => ⟨opening ++ s.giveUp why, .unreadable⟩
  | .ok h => ⟨opening ++ s.outputs h, if h.sink.isEmpty then .success else .lexicalErrors⟩

/-! ### Typed lines -/

/-- What follows a prompt: outputs, and then the next prompt or the end of the run. -/
inductive Turn
  | next (outputs : List Output)
  | last (o : Outcome)

/-- The turn on a typed line. Without a line the input is at its end. -/
def turn (s : Settings) : Option (List UInt8) → Turn
  | none => .last ⟨[], .success⟩
  | some line =>
    match lexBytes line with
    | .ok h => .next (s.outputs h)
    | .error why => .last ⟨s.giveUp why, .unreadable⟩

/-- The turns on these lines, each behind its prompt, up to the last. -/
def session (s : Settings) (lines : List (List UInt8)) : Outcome :=
  go lines #[]
where
  go (lines : List (List UInt8)) (done : Array Output) : Outcome :=
    match _h : s.turn lines.head? with
    | .next outputs => go lines.tail (done.push .prompt ++ outputs)
    | .last o => ⟨(done.push .prompt).toList ++ o.outputs, o.exit⟩
  termination_by lines.length
  decreasing_by
    cases lines with
    | nil => cases _h
    | cons => exact Nat.lt_succ_self _

def perform (s : Settings) (w : Surroundings) : Option String → Outcome
  | some path => s.script path (w.fileAt path)
  | none => s.session (splitLines w.input)

end Settings

/-! ## Runs -/

/-- What is asked for: an answer for which nothing is read, or a script or session under some settings. -/
inductive Job
  | answer (o : Outcome)
  | run (s : Settings) (script : Option String)

def Job.ofArguments (arguments : List String) (logSetting : Option String) : Job :=
  match Request.ofArguments arguments with
  | .error e => .answer (.refusal e)
  | .ok .help => .answer (.notice helpText)
  | .ok .version => .answer (.notice versionText)
  | .ok (.run o) => .run (.ofOptions o logSetting) o.script

def run (w : Surroundings) : Outcome :=
  match Job.ofArguments w.arguments w.logSetting with
  | .answer o => o
  | .run s script => s.perform w script

end LoxLex
