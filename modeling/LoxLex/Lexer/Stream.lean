import LoxLex.Lexer.Basic

/-!
# The stream of items

A lexer delivers finitely many items. `fold` runs through all that are left, and the questions one can put
to a stream (the n-th item, the next of a kind, how many are left) leave the lexer where their answer ends.
-/

namespace LoxLex

namespace Item

def isDiagnostic : Item → Bool
  | .diagnostic _ => true
  | .token _ => false

def hasKind (k : Kind) : Item → Bool
  | .token t => t.kind = k
  | .diagnostic _ => false

end Item

namespace Lexer

/-! ## Every item uses something up -/

/-- Characters still to be read, and one for an end of the text that has not been delivered. -/
def pending (l : Lexer) : Nat := l.left + if l.ended then 0 else 1

@[simp] theorem ended_mark (l : Lexer) : l.mark.ended = l.ended := rfl

theorem ended_readString (l : Lexer) : l.readString.2.ended = l.ended := by
  unfold readString; dsimp only; split <;> rfl

theorem ended_readNumber (l : Lexer) : l.readNumber.2.ended = l.ended := by
  unfold readNumber skipNumeral; dsimp only; split <;> rfl

theorem ended_readMark (c : Char) (l : Lexer) : (l.readMark c).2.ended = l.ended := by
  unfold readMark
  split
  · rfl
  · split <;> rfl

theorem ended_readItem (c : Char) (l : Lexer) : (l.readItem c).2.ended = l.ended := by
  unfold readItem
  split
  · exact ended_readString l
  · split
    · exact ended_readNumber l
    · split
      · rfl
      · exact ended_readMark c l

theorem ended_round (c : Char) (l : Lexer) : (l.round c).2.ended = l.ended := by
  unfold round readPiece
  split
  · rfl
  · split
    · rfl
    · exact ended_readItem c _

theorem pending_round_lt {c : Char} {r : List Char} {l : Lexer} (h : l.cursor.rest = c :: r) :
    (l.round c).2.pending < l.pending := by
  have := left_round_lt h
  simp only [pending, ended_round]
  omega

theorem pending_next_lt {l l' : Lexer} {item : Item} (h : l.next = (some item, l')) :
    l'.pending < l.pending := by
  fun_induction next l with
  | case1 => simp at h
  | case2 l hr he =>
    obtain ⟨-, rfl⟩ := Prod.mk.inj h
    simp [pending, left, he]
  | case3 l c r hr item' l₁ h₁ =>
    obtain ⟨-, rfl⟩ := Prod.mk.inj h
    have := pending_round_lt hr
    rwa [h₁] at this
  | case4 l c r hr l₁ h₁ ih =>
    have := pending_round_lt hr
    rw [h₁] at this
    exact Nat.lt_trans (ih h) this

/-! ## Running through the stream -/

def fold {β : Type} (f : β → Item → β) (b : β) (l : Lexer) : β :=
  match _h : l.next with
  | (none, _) => b
  | (some item, l') => fold f (f b item) l'
termination_by l.pending
decreasing_by exact pending_next_lt ‹_›

def items (l : Lexer) : List Item := (l.fold Array.push #[]).toList

theorem fold_of_next_none {β : Type} {f : β → Item → β} {b : β} {l l' : Lexer}
    (h : l.next = (none, l')) : l.fold f b = b := by
  rw [fold]; split <;> simp_all

theorem fold_of_next_some {β : Type} {f : β → Item → β} {b : β} {l l' : Lexer} {item : Item}
    (h : l.next = (some item, l')) : l.fold f b = l'.fold f (f b item) := by
  rw [fold]; split <;> simp_all

theorem items_of_next_none {l l' : Lexer} (h : l.next = (none, l')) : l.items = [] := by
  rw [items, fold_of_next_none h]

/-- A fold over the stream is a fold over its items, whatever came before. -/
theorem toList_fold_push (l : Lexer) (is : Array Item) :
    (l.fold Array.push is).toList = is.toList ++ l.items := by
  match h : l.next with
  | (none, l') => rw [items_of_next_none h, fold_of_next_none h, List.append_nil]
  | (some item, l') =>
    rw [items, fold_of_next_some h, fold_of_next_some h, toList_fold_push l', toList_fold_push l']
    simp
termination_by l.pending
decreasing_by all_goals exact pending_next_lt h

theorem items_of_next_some {l l' : Lexer} {item : Item} (h : l.next = (some item, l')) :
    l.items = item :: l'.items := by
  rw [items, fold_of_next_some h, toList_fold_push]
  rfl

theorem fold_eq_foldl_items {β : Type} (f : β → Item → β) (b : β) (l : Lexer) :
    l.fold f b = l.items.foldl f b := by
  match h : l.next with
  | (none, l') => rw [items_of_next_none h, fold_of_next_none h, List.foldl_nil]
  | (some item, l') =>
    rw [items_of_next_some h, fold_of_next_some h, List.foldl_cons, fold_eq_foldl_items f _ l']
termination_by l.pending
decreasing_by exact pending_next_lt h

def count (l : Lexer) : Nat := l.fold (fun n _ => n + 1) 0

def nth : Nat → Lexer → Option Item × Lexer
  | 0, l => l.next
  | n + 1, l =>
    match l.next with
    | (none, l') => (none, l')
    | (some _, l') => nth n l'

def take (n : Nat) (l : Lexer) : List Item × Lexer :=
  go n #[] l
where
  go : Nat → Array Item → Lexer → List Item × Lexer
    | 0, taken, l => (taken.toList, l)
    | n + 1, taken, l =>
      match l.next with
      | (none, l') => (taken.toList, l')
      | (some item, l') => go n (taken.push item) l'

/-- The next item that satisfies `p`. The items before it are gone. -/
def find (p : Item → Bool) (l : Lexer) : Option Item × Lexer :=
  match _h : l.next with
  | (none, l') => (none, l')
  | (some item, l') => if p item then (some item, l') else find p l'
termination_by l.pending
decreasing_by exact pending_next_lt ‹_›

end Lexer
end LoxLex
