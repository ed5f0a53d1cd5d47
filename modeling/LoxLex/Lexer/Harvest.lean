import LoxLex.Diagnostic.Sink
import LoxLex.Lexer.Stream

/-!
# Reading a text to its end

All tokens are gathered, every diagnostic goes to a sink as it is found, and a record of events is kept
beside them with a count of its own.
-/

namespace LoxLex

/-- What a reading tells an observer. Every event names the length of the text in bytes. -/
inductive LexEvent
  | lexicalError (bytes line : Nat) (fault : Fault)
  | finished (bytes tokens errors : Nat)
deriving DecidableEq

structure Harvest (σ : Type) where
  tokens : Array Token
  errors : Nat
  sink : σ
  events : Array LexEvent

namespace Harvest

variable {σ : Type} [Sink σ]

def empty (sink : σ) : Harvest σ := ⟨#[], 0, sink, #[]⟩

def add (bytes : Nat) (h : Harvest σ) : Item → Harvest σ
  | .token t => { h with tokens := h.tokens.push t }
  | .diagnostic d =>
    { h with
      errors := h.errors + 1
      sink := Sink.receive h.sink d
      events := h.events.push (.lexicalError bytes d.line d.fault) }

def finish (bytes : Nat) (h : Harvest σ) : Harvest σ :=
  { h with events := h.events.push (.finished bytes h.tokens.size h.errors) }

end Harvest

def Lexer.harvest {σ : Type} [Sink σ] (l : Lexer) (sink : σ) : Harvest σ :=
  let bytes := l.source.utf8ByteSize
  (l.fold (Harvest.add bytes) (.empty sink)).finish bytes

def lex {σ : Type} [Sink σ] (source : String) (sink : σ) : List Token × σ :=
  let h := (Lexer.ofString source).harvest sink
  (h.tokens.toList, h.sink)

end LoxLex
