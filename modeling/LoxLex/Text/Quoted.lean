import LoxLex.Text.Graphic

/-!
# Text for inspection

A text or a character stands between quotes, with escapes for its own quote, the backslash and the characters
that do not show: a text leaves the single quote as it is, and a character the double quote. A record names
its parts.
-/

namespace LoxLex

def escape (quote : Char) (c : Char) : List Char :=
  if c = quote ∨ c = '\\' then ['\\', c]
  else if c = '\n' then ['\\', 'n']
  else if c = '\r' then ['\\', 'r']
  else if c = '\t' then ['\\', 't']
  else if c = '\x00' then ['\\', '0']
  else if isGraphic c then [c]
  else ['\\', 'u', '\x7b'] ++ Nat.toDigits 16 c.toNat ++ ['\x7d']

def quoteText (s : String) : String := .ofList ('"' :: s.toList.flatMap (escape '"') ++ ['"'])

def quoteChar (c : Char) : String := .ofList ('\'' :: escape '\'' c ++ ['\''])

def quoteRecord (name : String) (parts : List (String × String)) : String :=
  name ++ " \x7b " ++ ", ".intercalate (parts.map fun p => p.1 ++ ": " ++ p.2) ++ " \x7d"

end LoxLex
