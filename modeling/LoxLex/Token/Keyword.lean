/-!
# Reserved words

A reserved word is recognised only by its exact spelling.
-/

namespace LoxLex

inductive Keyword
  | kwAnd | kwClass | kwElse | kwFalse | kwFun | kwFor | kwIf | kwNil | kwOr
  | kwPrint | kwReturn | kwSuper | kwThis | kwTrue | kwVar | kwWhile
deriving DecidableEq

namespace Keyword

def all : List Keyword :=
  [.kwAnd, .kwClass, .kwElse, .kwFalse, .kwFun, .kwFor, .kwIf, .kwNil, .kwOr,
   .kwPrint, .kwReturn, .kwSuper, .kwThis, .kwTrue, .kwVar, .kwWhile]

theorem mem_all (k : Keyword) : k ∈ all := by cases k <;> decide

def spelling : Keyword → String
  | .kwAnd => "and"
  | .kwClass => "class"
  | .kwElse => "else"
  | .kwFalse => "false"
  | .kwFun => "fun"
  | .kwFor => "for"
  | .kwIf => "if"
  | .kwNil => "nil"
  | .kwOr => "or"
  | .kwPrint => "print"
  | .kwReturn => "return"
  | .kwSuper => "super"
  | .kwThis => "this"
  | .kwTrue => "true"
  | .kwVar => "var"
  | .kwWhile => "while"

def title : Keyword → String
  | .kwAnd => "And"
  | .kwClass => "Class"
  | .kwElse => "Else"
  | .kwFalse => "False"
  | .kwFun => "Fun"
  | .kwFor => "For"
  | .kwIf => "If"
  | .kwNil => "Nil"
  | .kwOr => "Or"
  | .kwPrint => "Print"
  | .kwReturn => "Return"
  | .kwSuper => "Super"
  | .kwThis => "This"
  | .kwTrue => "True"
  | .kwVar => "Var"
  | .kwWhile => "While"

def name : Keyword → String
  | .kwAnd => "AND"
  | .kwClass => "CLASS"
  | .kwElse => "ELSE"
  | .kwFalse => "FALSE"
  | .kwFun => "FUN"
  | .kwFor => "FOR"
  | .kwIf => "IF"
  | .kwNil => "NIL"
  | .kwOr => "OR"
  | .kwPrint => "PRINT"
  | .kwReturn => "RETURN"
  | .kwSuper => "SUPER"
  | .kwThis => "THIS"
  | .kwTrue => "TRUE"
  | .kwVar => "VAR"
  | .kwWhile => "WHILE"

def ofSpelling? (text : String) : Option Keyword := all.find? fun k => k.spelling = text

theorem spelling_of_ofSpelling? {text : String} {k : Keyword} (h : ofSpelling? text = some k) :
    k.spelling = text := by
  simpa using List.find?_some h

end Keyword
end LoxLex
