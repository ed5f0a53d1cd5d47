import LoxLex.Diagnostic.Basic
import LoxLex.Text.Field
import LoxLex.Text.Quoted

/-!
# Diagnostics for inspection and in fields

A field does not change how a diagnostic or its message is written.
-/

namespace LoxLex

def Fault.inspect : Fault → String
  | .unexpectedCharacter c => "UnexpectedCharacter(" ++ quoteChar c ++ ")"
  | .unterminatedString => "UnterminatedString"

def Diagnostic.inspect (d : Diagnostic) : String :=
  quoteRecord "Error" [("line", toString d.line), ("kind", d.fault.inspect)]

instance : Fielded Fault where
  inField _ e := e.message

instance : Fielded Diagnostic where
  inField _ d := d.text

end LoxLex
