import LoxLex.Token.Keyword
import LoxLex.Token.Mark

/-!
# Kinds of tokens

A token is a punctuation mark, a name, a string, a number, a reserved word, or the end of the text.
-/

namespace LoxLex

inductive Kind
  | mark (m : Mark)
  | identifier
  | string
  | number
  | keyword (k : Keyword)
  | endOfFile
deriving DecidableEq

namespace Kind

def all : List Kind :=
  Mark.all.map .mark ++ [.identifier, .string, .number] ++ Keyword.all.map .keyword ++ [.endOfFile]

theorem mem_all (k : Kind) : k ∈ all := by
  cases k <;> simp [all, Mark.mem_all, Keyword.mem_all]

def name : Kind → String
  | .mark m => m.name
  | .identifier => "IDENTIFIER"
  | .string => "STRING"
  | .number => "NUMBER"
  | .keyword k => k.name
  | .endOfFile => "EOF"

def title : Kind → String
  | .mark m => m.title
  | .identifier => "Identifier"
  | .string => "String"
  | .number => "Number"
  | .keyword k => k.title
  | .endOfFile => "EndOfFile"

def ofSpelling? (text : String) : Option Kind := (Keyword.ofSpelling? text).map .keyword

def isKeyword : Kind → Bool
  | .keyword _ => true
  | _ => false

def ofName? (name : String) : Option Kind := all.find? fun k => k.name = name

def ofTitle? (title : String) : Option Kind := all.find? fun k => k.title = title

end Kind
end LoxLex
