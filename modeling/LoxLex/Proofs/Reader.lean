import LoxLex.Proofs.Line
import Mathlib.Logic.Relation

/-!
# Readers

A reader has its characters from an iterator that it can look into, and counts bytes and lines by hand beside
it. It makes four moves: it marks the beginning of a piece, looks ahead, takes a character, and notes the end
of the text. Looking ahead may change the iterator, but no move parts a reader from the lexer that it stands
for.
-/

namespace LoxLex

/-! ## Iterators that can be looked into -/

class Peekable (σ : Type) where
  ofList : List Char → σ
  next : σ → Option Char × σ
  /-- What comes after the next `n` characters. The iterator may fetch these meanwhile. -/
  peek : Nat → σ → Option Char × σ
  /-- The characters that are still to come. -/
  pending : σ → List Char
  pending_ofList (cs : List Char) : pending (ofList cs) = cs
  next_fst (k : σ) : (next k).1 = (pending k).head?
  pending_next (k : σ) : pending (next k).2 = (pending k).tail
  peek_fst (n : Nat) (k : σ) : (peek n k).1 = (pending k)[n]?
  pending_peek (n : Nat) (k : σ) : pending (peek n k).2 = pending k

/-- An iterator over a list that keeps in a queue what has been looked at. -/
structure Queue where
  queued : List Char
  rest : List Char

namespace Queue

def next (k : Queue) : Option Char × Queue :=
  match k.queued with
  | [] => (k.rest.head?, ⟨[], k.rest.tail⟩)
  | c :: q => (some c, ⟨q, k.rest⟩)

def fill (n : Nat) (k : Queue) : Queue :=
  ⟨k.queued ++ k.rest.take (n - k.queued.length), k.rest.drop (n - k.queued.length)⟩

def pending (k : Queue) : List Char := k.queued ++ k.rest

theorem pending_fill (n : Nat) (k : Queue) : (k.fill n).pending = k.pending := by
  simp [pending, fill]

theorem getElem?_fill (n : Nat) (k : Queue) : (k.fill (n + 1)).queued[n]? = k.pending[n]? := by
  by_cases h : n < k.queued.length
  · simp [fill, pending, List.getElem?_append_left h]
  · have hn : n - k.queued.length < n + 1 - k.queued.length := by omega
    simp [fill, pending, List.getElem?_append_right (Nat.not_lt.mp h), List.getElem?_take_of_lt hn]

instance : Peekable Queue where
  ofList cs := ⟨[], cs⟩
  next := next
  peek n k := ((k.fill (n + 1)).queued[n]?, k.fill (n + 1))
  pending := pending
  pending_ofList _ := rfl
  next_fst k := by cases h : k.queued <;> simp [next, pending, h]
  pending_next k := by cases h : k.queued <;> simp [next, pending, h]
  peek_fst n k := k.getElem?_fill n
  pending_peek n k := k.pending_fill (n + 1)

end Queue

/-! ## Moves -/

structure Reader (σ : Type) where
  source : String
  iterator : σ
  start : Place
  place : Place
  ended : Bool

namespace Reader
variable {σ : Type} [Peekable σ]

def ofString (source : String) : Reader σ :=
  ⟨source, Peekable.ofList source.toList, .origin, .origin, false⟩

def mark (s : Reader σ) : Reader σ := { s with start := s.place }

def peek (n : Nat) (s : Reader σ) : Reader σ := { s with iterator := (Peekable.peek n s.iterator).2 }

/-- At the end of the text there is no character to count. -/
def advance (s : Reader σ) : Reader σ :=
  { s with
    iterator := (Peekable.next s.iterator).2
    place := (Peekable.next s.iterator).1.elim s.place s.place.past }

def finish (s : Reader σ) : Reader σ := { s with ended := true }

inductive Move : Reader σ → Reader σ → Prop
  | mark (s) : Move s s.mark
  | peek (n s) : Move s (s.peek n)
  | advance (s) : Move s s.advance
  | finish (s) : Move s s.finish

/-- The readers of a text, between rounds and within them. Nothing is asked of the order of their moves. -/
def Reached (source : String) : Reader σ → Prop := Relation.ReflTransGen Move (ofString source)

/-! ## Readers stand for lexers -/

def pending (s : Reader σ) : List Char := Peekable.pending s.iterator

def lexer (s : Reader σ) : Lexer := ⟨s.source, s.start, ⟨s.pending, s.place⟩, s.ended⟩

theorem lexer_ofString (source : String) : (ofString source : Reader σ).lexer = .ofString source := by
  simp [lexer, pending, ofString, Lexer.ofString, Cursor.ofString, Peekable.pending_ofList]

theorem lexer_mark (s : Reader σ) : s.mark.lexer = s.lexer.mark := rfl

theorem lexer_peek (n : Nat) (s : Reader σ) : (s.peek n).lexer = s.lexer := by
  simp [lexer, pending, peek, Peekable.pending_peek]

theorem lexer_advance (s : Reader σ) : s.advance.lexer = s.lexer.advance := by
  simp only [lexer, pending, advance, Lexer.advance, Cursor.advance, Peekable.next_fst, Peekable.pending_next]
  cases Peekable.pending s.iterator <;> rfl

theorem peek?_lexer (s : Reader σ) : s.lexer.cursor.peek? = (Peekable.peek 0 s.iterator).1 := by
  rw [Peekable.peek_fst, ← List.head?_eq_getElem?]
  rfl

theorem peekSecond?_lexer (s : Reader σ) : s.lexer.cursor.peekSecond? = (Peekable.peek 1 s.iterator).1 := by
  rw [Peekable.peek_fst, ← List.getElem?_tail, ← List.head?_eq_getElem?]
  rfl

/-! ## No move loses the text -/

variable {source : String} {s s' : Reader σ}

theorem Move.within (h : Move s s') (hs : s.lexer.Within source.toList) : s'.lexer.Within source.toList := by
  cases h with
  | mark => exact hs.mark
  | peek n => rwa [lexer_peek]
  | advance =>
    rw [lexer_advance]
    exact hs.advance
  | finish => exact hs.finish

theorem Reached.move (h : Reached source s) (hm : Move s s') : Reached source s' := h.tail hm

theorem Reached.within (h : Reached source s) : s.lexer.Within source.toList := by
  induction h with
  | refl =>
    rw [lexer_ofString]
    exact Lexer.within_ofString source
  | tail _ hm ih => exact hm.within ih

theorem Reached.source_eq (h : Reached source s) : s.source = source :=
  String.toList_injective h.within.1

end Reader
end LoxLex
