import LoxLex.Diagnostic.Basic

/-!
# Sinks

A sink takes diagnostics one at a time. A list keeps them all, a relay hands them on to another sink, and a
callback is told the line and the message.
-/

namespace LoxLex

class Sink (σ : Type) where
  receive : σ → Diagnostic → σ

instance : Sink (Array Diagnostic) where
  receive := Array.push

structure Relay (σ : Type) where
  target : σ
deriving DecidableEq

instance {σ} [Sink σ] : Sink (Relay σ) where
  receive r d := ⟨Sink.receive r.target d⟩

structure Callback (α : Type) where
  state : α
  call : α → Nat → String → α

instance {α} : Sink (Callback α) where
  receive k d := { k with state := k.call k.state d.line d.message }

end LoxLex
