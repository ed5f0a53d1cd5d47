import LoxLex.Text.Field
import LoxLex.Text.Quoted
import LoxLex.Token.Basic

/-!
# Tokens for inspection and in fields

The inspection text of a token names its parts. Only a kind takes up the columns of a field; a value or a
token is written as it is.
-/

namespace LoxLex

def Literal.inspect : Literal → String
  | .number x => "Number(" ++ NumberStyle.inspected.text x ++ ")"
  | .string s => "String(" ++ quoteText s ++ ")"

def Token.inspect (t : Token) : String :=
  quoteRecord "Token"
    [("kind", t.kind.title),
     ("lexeme", quoteText t.lexeme),
     ("literal", match t.literal with
       | some v => "Some(" ++ v.inspect ++ ")"
       | none => "None"),
     ("line", toString t.line)]

instance : Fielded Kind where
  inField f k := .ofList (f.pad k.name.toList)

instance : Fielded Literal where
  inField _ v := v.text

instance : Fielded Token where
  inField _ t := t.text

end LoxLex
