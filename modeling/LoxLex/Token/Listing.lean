import LoxLex.Text.Blank
import LoxLex.Text.Field
import LoxLex.Token.Basic

/-!
# The listing of tokens

One line for each token: its line number, its kind, its lexeme and its value, the first two in columns.
Line breaks inside a token are written as escapes, so a token never takes more than one line, and a line
does not end in blank characters.
-/

namespace LoxLex

def escapeBreaks (cs : List Char) : List Char :=
  cs.flatMap fun c =>
    if c = '\r' then ['\\', 'r'] else if c = '\n' then ['\\', 'n'] else [c]

namespace Token

def lineField : Field := { align := .right, width := 4 }

def kindField : Field := { width := 13 }

def columns (t : Token) : List Char :=
  lineField.pad (Nat.toDigits 10 t.line) ++ ' ' :: kindField.pad t.kind.name.toList ++
    ' ' :: t.lexeme.toList ++ t.literalSuffix.toList

def listingLine (t : Token) : String := .ofList (trimEnd (escapeBreaks t.columns))

end Token

def listing (ts : List Token) : String := .join (ts.map fun t => t.listingLine ++ "\n")

end LoxLex
