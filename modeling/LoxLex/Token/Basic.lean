import LoxLex.Number.Style
import LoxLex.Token.Kind

/-!
# Tokens

A token is the piece of text it was read from, with its kind, the line the piece begins on, and for numbers
and strings the value that the piece stands for.
-/

namespace LoxLex

inductive Literal
  | number (x : Binary64)
  | string (s : String)
deriving DecidableEq

instance : BEq Literal where
  beq
    | .number x, .number y => x == y
    | .string s, .string t => s == t
    | _, _ => false

structure Token where
  kind : Kind
  lexeme : String
  literal : Option Literal
  line : Nat
deriving DecidableEq

/-- Tokens are equal when all their parts are, with numbers compared as numbers. -/
instance : BEq Token where
  beq s t := s.kind == t.kind && s.lexeme == t.lexeme && s.literal == t.literal && s.line == t.line

def Token.endOfFile (line : Nat) : Token := ⟨.endOfFile, "", none, line⟩

/-! ## Texts -/

def Literal.text : Literal → String
  | .number x => NumberStyle.plain.text x
  | .string s => s

def Token.literalSuffix (t : Token) : String :=
  match t.literal with
  | some v => " " ++ v.text
  | none => ""

def Token.text (t : Token) : String := t.kind.name ++ " " ++ t.lexeme ++ t.literalSuffix

end LoxLex
