/-!
# Diagnostics

What can be wrong with a text: a character that begins nothing, or a string without its closing quote.
Neither stops the reading.
-/

namespace LoxLex

inductive Fault
  | unexpectedCharacter (c : Char)
  | unterminatedString
deriving DecidableEq

structure Diagnostic where
  line : Nat
  fault : Fault
deriving DecidableEq

def Fault.message : Fault → String
  | .unexpectedCharacter c => "Unexpected character: " ++ String.singleton c
  | .unterminatedString => "Unterminated string"

namespace Diagnostic

def unexpectedCharacter (line : Nat) (c : Char) : Diagnostic := ⟨line, .unexpectedCharacter c⟩

def unterminatedString (line : Nat) : Diagnostic := ⟨line, .unterminatedString⟩

def message (d : Diagnostic) : String := d.fault.message

def text (d : Diagnostic) : String := "[line " ++ toString d.line ++ "] Error: " ++ d.message

end Diagnostic
end LoxLex
