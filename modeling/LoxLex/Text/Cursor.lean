/-!
# Reading a text one character at a time

A cursor holds the characters that are still to be read and the place they start at. It moves forward
only, and looking ahead does not move it.
-/

namespace LoxLex

/-! ## Places -/

/-- A place in a text: the number of UTF-8 bytes before it, and its line, counted from 1. -/
structure Place where
  offset : Nat
  line : Nat
deriving DecidableEq

namespace Place

def origin : Place := ⟨0, 1⟩

/-- The place after the character `c`. Only a line feed begins a new line. -/
def past (p : Place) (c : Char) : Place :=
  ⟨p.offset + c.utf8Size, if c = '\n' then p.line + 1 else p.line⟩

@[simp] theorem offset_past (p : Place) (c : Char) : (p.past c).offset = p.offset + c.utf8Size := rfl

@[simp] theorem line_past (p : Place) (c : Char) :
    (p.past c).line = if c = '\n' then p.line + 1 else p.line := rfl

def pastAll (p : Place) (cs : List Char) : Place := cs.foldl past p

@[simp] theorem pastAll_nil (p : Place) : p.pastAll [] = p := rfl

@[simp] theorem pastAll_cons (p : Place) (c : Char) (cs : List Char) :
    p.pastAll (c :: cs) = (p.past c).pastAll cs := rfl

theorem pastAll_append (p : Place) (cs ds : List Char) :
    p.pastAll (cs ++ ds) = (p.pastAll cs).pastAll ds := by
  simp [pastAll, List.foldl_append]

theorem offset_pastAll (p : Place) (cs : List Char) :
    (p.pastAll cs).offset = p.offset + (String.ofList cs).utf8ByteSize := by
  induction cs generalizing p with
  | nil => simp
  | cons c cs ih =>
    rw [pastAll_cons, ih, offset_past, String.ofList_cons, String.utf8ByteSize_append,
      String.utf8ByteSize_singleton, Nat.add_assoc]

theorem line_pastAll (p : Place) (cs : List Char) :
    (p.pastAll cs).line = p.line + cs.count '\n' := by
  induction cs generalizing p with
  | nil => simp
  | cons c cs ih =>
    rw [pastAll_cons, ih, line_past, List.count_cons]
    by_cases hc : c = '\n' <;> simp [hc]; omega

end Place

/-! ## Cursors -/

structure Cursor where
  rest : List Char
  place : Place
deriving DecidableEq

namespace Cursor

def ofString (s : String) : Cursor := ⟨s.toList, .origin⟩

def peek? (k : Cursor) : Option Char := k.rest.head?

def peekSecond? (k : Cursor) : Option Char := k.rest.tail.head?

/-- Moves over one character. At the end of the text the cursor stays where it is. -/
def advance (k : Cursor) : Cursor :=
  match k.rest with
  | [] => k
  | c :: r => ⟨r, k.place.past c⟩

def skipWhile (p : Char → Bool) (k : Cursor) : Cursor :=
  go k.rest k.place
where
  go : List Char → Place → Cursor
    | [], q => ⟨[], q⟩
    | c :: r, q => if p c then go r (q.past c) else ⟨c :: r, q⟩

/-! ### Where a cursor comes to stand -/

theorem advance_of_rest_cons {k : Cursor} {c : Char} {r : List Char} (h : k.rest = c :: r) :
    k.advance = ⟨r, k.place.past c⟩ := by
  simp only [advance, h]

@[simp] theorem rest_advance (k : Cursor) : k.advance.rest = k.rest.tail := by
  unfold advance; split <;> simp_all

theorem skipWhile_eq (p : Char → Bool) (k : Cursor) :
    k.skipWhile p = ⟨k.rest.dropWhile p, k.place.pastAll (k.rest.takeWhile p)⟩ := by
  have h : ∀ cs q, skipWhile.go p cs q = ⟨cs.dropWhile p, q.pastAll (cs.takeWhile p)⟩ := by
    intro cs
    induction cs with
    | nil => intro q; rfl
    | cons c r ih => intro q; by_cases hc : p c <;> simp [skipWhile.go, hc, ih]
  exact h k.rest k.place

/-! ### Moving forward never lengthens the rest -/

theorem length_rest_advance_le (k : Cursor) : k.advance.rest.length ≤ k.rest.length := by
  simp

theorem length_rest_skipWhile_le (p : Char → Bool) (k : Cursor) :
    (k.skipWhile p).rest.length ≤ k.rest.length := by
  rw [skipWhile_eq]; exact (List.dropWhile_sublist p).length_le

end Cursor
end LoxLex
