import LoxLex.Proofs.Playback

/-!
# Sinks keep one ledger

A sink may be given diagnostics one at a time and whole texts, in any order. After each of these every kind of
sink has received the same diagnostics, as entered in a ledger, and the tokens of a text are the same whoever
receives its diagnostics.
-/

namespace LoxLex

/-- What a sink is given at a time: a diagnostic by itself, or those of a text that is read into it. -/
inductive Delivery
  | single (d : Diagnostic)
  | text (source : String)

namespace Delivery

def items : Delivery → List Item
  | .single d => [.diagnostic d]
  | .text source => (Lexer.ofString source).items

def into {σ : Type} [Sink σ] (s : σ) : Delivery → List Token × σ
  | .single d => ([], Sink.receive s d)
  | .text source => lex source s

/-- The tokens of each delivery, and the sink after it. -/
def allInto {σ : Type} [Sink σ] (s : σ) : List Delivery → List (List Token × σ)
  | [] => []
  | a :: as => a.into s :: allInto (a.into s).2 as

/-- The same kept in a list of diagnostics. -/
def ledger (held : List Diagnostic) : List Delivery → List (List Token × List Diagnostic)
  | [] => []
  | a :: as =>
    (tokensOf a.items, held ++ diagnosticsOf a.items) :: ledger (held ++ diagnosticsOf a.items) as

end Delivery

/-- A callback that has been told the lines and the messages of diagnostics. -/
def Callback.told {α : Type} (k : Callback α) (ds : List Diagnostic) : Callback α :=
  { k with state := (ds.map fun d => (d.line, d.message)).foldl (fun a m => k.call a m.1 m.2) k.state }

/-! ## One sink -/

section
variable {σ : Type} [Sink σ]

theorem Delivery.into_eq (s : σ) (a : Delivery) :
    a.into s = (tokensOf a.items, (diagnosticsOf a.items).foldl Sink.receive s) := by
  cases a with
  | single d => rfl
  | text source => exact lex_eq source s

/-- Whatever a sink makes of diagnostics, it makes it of those in the ledger. -/
theorem Delivery.allInto_eq (s : σ) (held : List Diagnostic) (as : List Delivery) :
    allInto (held.foldl Sink.receive s) as =
      (ledger held as).map fun e => (e.1, e.2.foldl Sink.receive s) := by
  induction as generalizing held with
  | nil => rfl
  | cons a as ih => rw [allInto, ledger, List.map_cons, into_eq, ← List.foldl_append, ih]

theorem foldl_receive_relay (ds : List Diagnostic) (s : σ) :
    ds.foldl Sink.receive (Relay.mk s) = ⟨ds.foldl Sink.receive s⟩ := by
  induction ds generalizing s with
  | nil => rfl
  | cons d ds ih => exact ih (Sink.receive s d)

end

theorem foldl_receive_array (ds : List Diagnostic) :
    ds.foldl Sink.receive (#[] : Array Diagnostic) = ds.toArray := by
  apply Array.toList_inj.mp
  rw [toList_foldl_receive]
  rfl

theorem foldl_receive_callback {α : Type} (ds : List Diagnostic) (k : Callback α) :
    ds.foldl Sink.receive k = k.told ds := by
  induction ds generalizing k with
  | nil => rfl
  | cons d ds ih => exact ih (Sink.receive k d)

/-! ## All sinks -/

/-- **One ledger.** A list, a relay to it, a relay to that, and a callback have received the diagnostics of
the ledger after each delivery, and the tokens depend on none of them. The items of a text, of which the ledger
is made, are those that its stream delivers. -/
theorem sinks_agree {α : Type} (kept : Array Diagnostic) (k : Callback α) (as : List Delivery) :
    Delivery.allInto kept as = (Delivery.ledger kept.toList as).map (fun e => (e.1, e.2.toArray)) ∧
    Delivery.allInto (Relay.mk kept) as =
      (Delivery.ledger kept.toList as).map (fun e => (e.1, ⟨e.2.toArray⟩)) ∧
    Delivery.allInto (Relay.mk (Relay.mk kept)) as =
      (Delivery.ledger kept.toList as).map (fun e => (e.1, ⟨⟨e.2.toArray⟩⟩)) ∧
    Delivery.allInto k as = (Delivery.ledger [] as).map (fun e => (e.1, k.told e.2)) ∧
    ∀ source n, ((Lexer.ofString source).nth n).1 = (Delivery.text source).items[n]? := by
  have h₁ := Delivery.allInto_eq (#[] : Array Diagnostic) kept.toList as
  have h₂ := Delivery.allInto_eq (Relay.mk (#[] : Array Diagnostic)) kept.toList as
  have h₃ := Delivery.allInto_eq (Relay.mk (Relay.mk (#[] : Array Diagnostic))) kept.toList as
  have h₄ := Delivery.allInto_eq k [] as
  simp only [foldl_receive_relay, foldl_receive_array, foldl_receive_callback] at h₁ h₂ h₃ h₄
  exact ⟨h₁, h₂, h₃, h₄, fun source n => ((Lexer.ofString source).nth_items n).1⟩

end LoxLex
