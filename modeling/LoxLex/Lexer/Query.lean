import LoxLex.Lexer.Harvest

/-!
# Questions to a stream

A question moves the lexer on. The last of them takes the lexer away, and every question after it is
answered by saying so.
-/

namespace LoxLex

inductive Query
  | next
  | nth (n : Nat)
  | take (n : Nat)
  | nextDiagnostic
  | nextOfKind (k : Kind)
  | count
  | rest
  | harvest
deriving DecidableEq

inductive Reply
  | item (i : Option Item)
  | items (is : List Item)
  | count (n : Nat)
  | harvest (tokens : List Token) (diagnostics : List Diagnostic)
  | consumed
deriving DecidableEq

namespace Lexer

def exhaust (l : Lexer) : Lexer := (l.find fun _ => false).2

def answer (l : Lexer) : Query → Reply × Option Lexer
  | .next => let (i, l') := l.next; (.item i, some l')
  | .nth n => let (i, l') := l.nth n; (.item i, some l')
  | .take n => let (is, l') := l.take n; (.items is, some l')
  | .nextDiagnostic => let (i, l') := l.find Item.isDiagnostic; (.item i, some l')
  | .nextOfKind k => let (i, l') := l.find (Item.hasKind k); (.item i, some l')
  | .count => (.count l.count, some l.exhaust)
  | .rest => (.items l.items, some l.exhaust)
  | .harvest =>
    let h := l.harvest (#[] : Array Diagnostic)
    (.harvest h.tokens.toList h.sink.toList, none)

def answers : Option Lexer → List Query → List Reply
  | _, [] => []
  | none, _ :: qs => .consumed :: answers none qs
  | some l, q :: qs => let (r, l') := l.answer q; r :: answers l' qs

end Lexer
end LoxLex
