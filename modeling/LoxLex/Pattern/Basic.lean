import LoxLex.Text.Blank

/-!
# Pieces of search patterns

A pattern is read under flags, which say what a piece of it may be. Beyond ASCII the kinds and cases of
characters are not known: a piece that needs them is refused, unless the pattern keeps to single bytes. How
deep the pieces of a pattern are nested is counted, since there is a limit to it.

A reader of some part of a pattern gives what it has read and what is left, and what is left is no longer than
what it was given. So the readers that go on to the end of a class or of a pattern come to an end.
-/

namespace LoxLex
namespace Pattern

/-- In a spaced pattern, blanks and comments are passed over. -/
structure Flags where
  ignoreCase : Bool := false
  unicode : Bool := true
  spaced : Bool := false
deriving DecidableEq

/-- A character can be written as a byte. A kind is that of digits, of blanks or of characters of words. -/
inductive Piece
  | char (c : Char) (asByte : Bool)
  | kind (negated : Bool)
  | anchor
  | wordEdge
deriving DecidableEq

/-- Parts that stand side by side: how many there are, and how deep the deepest is nested. -/
structure Row where
  count : Nat := 0
  deepest : Nat := 0
deriving DecidableEq

namespace Row

def add (r : Row) (depth : Nat) : Row := ⟨r.count + 1, max r.deepest depth⟩

/-- Only parts in the plural are nested in something that holds them together. -/
def depth (r : Row) : Nat := if r.count ≤ 1 then r.deepest else r.deepest + 1

end Row

namespace Flags

def allows (f : Flags) : Piece → Bool
  | .char c asByte => if f.unicode then !f.ignoreCase else !asByte || c.toNat < 0x80
  | .kind negated => !f.unicode && !negated
  | .anchor => true
  | .wordEdge => !f.unicode

def allowsInClass (f : Flags) : Piece → Bool
  | .char c _ => if f.unicode then !f.ignoreCase else c.toNat < 0x80
  | .kind negated => !f.unicode && !negated
  | _ => false

/-- A byte pattern leaves nothing out, since what it leaves out would be parts of longer characters. -/
def allowsNegation (f : Flags) : Bool := f.unicode

def skipWith (f : Flags) (also : List Char) (inComment : Bool) : List Char → List Char
  | [] => []
  | c :: cs =>
    if inComment then f.skipWith also (c ≠ '\n') cs
    else if also.contains c || (f.spaced && isBlank c) then f.skipWith also false cs
    else if f.spaced && c = '#' then f.skipWith also true cs
    else c :: cs

def skip (f : Flags) (cs : List Char) : List Char := f.skipWith [] false cs

theorem length_skipWith_le (f : Flags) (also : List Char) (inComment : Bool) (cs : List Char) :
    (f.skipWith also inComment cs).length ≤ cs.length := by
  induction cs generalizing inComment with
  | nil => simp [skipWith]
  | cons c cs ih =>
    unfold skipWith
    have h (b : Bool) : (f.skipWith also b cs).length ≤ (c :: cs).length := Nat.le_succ_of_le (ih b)
    split
    · exact h _
    · split
      · exact h _
      · split
        · exact h _
        · exact Nat.le_refl _

theorem length_skip_le (f : Flags) (cs : List Char) : (f.skip cs).length ≤ cs.length :=
  f.length_skipWith_le [] false cs

end Flags
end Pattern
end LoxLex
