import LoxLex.Command.Failure
import LoxLex.Command.Log.Level
import LoxLex.Lexer.Harvest
import LoxLex.Text.Field

/-!
# Records of the log

A record has a level, a target and named fields, of which the message is the first. The records on the lexing
of a text stand in a span, which names the length of the text.

A record is written without the time, which would stand first on its line, and without the colours that a
terminal is sent: neither is a part of what is recorded.
-/

namespace LoxLex

structure Span where
  bytes : Nat
deriving DecidableEq

namespace Span

def level : Level := .debug

def target : String := "lox_scan::scanner"

def name : String := "scan_tokens"

def fieldName : String := "bytes"

def text (s : Span) : String := name ++ "\x7b" ++ fieldName ++ "=" ++ toString s.bytes ++ "\x7d"

end Span

inductive LogRecord
  | readingFile (path : String)
  | unreadable (why : ReadFailure)
  | lexing (e : LexEvent)
deriving DecidableEq

namespace LogRecord

def level : LogRecord → Level
  | .unreadable _ => .warn
  | _ => .debug

def target : LogRecord → String
  | .lexing _ => Span.target
  | _ => "lox_scan"

def span? : LogRecord → Option Span
  | .lexing (.lexicalError bytes _ _) | .lexing (.finished bytes _ _) => some ⟨bytes⟩
  | _ => none

def message : LogRecord → String
  | .readingFile _ => "scanning file"
  | .unreadable _ => "could not read input"
  | .lexing (.lexicalError ..) => "lexical error"
  | .lexing (.finished ..) => "scan finished"

def fields : LogRecord → List (String × String)
  | .readingFile path => [("path", path)]
  | .unreadable why => [("error", why.text)]
  | .lexing (.lexicalError _ line fault) => [("line", toString line), ("error", fault.message)]
  | .lexing (.finished _ tokens errors) => [("tokens", toString tokens), ("errors", toString errors)]

def fieldNames (r : LogRecord) : List String := "message" :: r.fields.map (·.1)

end LogRecord

/-- A record as it is written. Its span is left out when the log does not follow the span. -/
structure LogLine where
  record : LogRecord
  inSpan : Bool
deriving DecidableEq

namespace LogLine

def levelField : Field := { align := .right, width := 5 }

def text (l : LogLine) : String :=
  let r := l.record
  let span := if l.inSpan then r.span?.elim "" (·.text ++ ": ") else ""
  .ofList (levelField.pad r.level.name.toUpper.toList) ++ " " ++ span ++ r.target ++ ": " ++ r.message ++
    .join (r.fields.map fun f => " " ++ f.1 ++ "=" ++ f.2)

end LogLine
end LoxLex
