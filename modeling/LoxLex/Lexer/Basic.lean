import LoxLex.Diagnostic.Basic
import LoxLex.Text.Cursor
import LoxLex.Text.Slice
import LoxLex.Token.Basic

/-!
# The lexer

A lexer reads a text piece by piece. A piece is a blank, a comment, a token, or something that gives a
diagnostic; `next` skips the pieces that give nothing. After the last piece comes one token for the end of
the text, and then nothing more.
-/

namespace LoxLex

inductive Item
  | token (t : Token)
  | diagnostic (d : Diagnostic)
deriving DecidableEq

/-- A text, the place where the current piece begins, and what is still to be read. -/
structure Lexer where
  source : String
  start : Place
  cursor : Cursor
  /-- Whether the end of the text has been delivered. -/
  ended : Bool
deriving DecidableEq

def startsWord (c : Char) : Bool := c.isAlpha || c = '_'

def continuesWord (c : Char) : Bool := startsWord c || c.isDigit

namespace Lexer

def ofString (source : String) : Lexer := ⟨source, .origin, .ofString source, false⟩

/-! ## Moves -/

def mark (l : Lexer) : Lexer := { l with start := l.cursor.place }

def advance (l : Lexer) : Lexer := { l with cursor := l.cursor.advance }

def skipWhile (p : Char → Bool) (l : Lexer) : Lexer := { l with cursor := l.cursor.skipWhile p }

def lexeme? (l : Lexer) : Option String := slice? l.source l.start.offset l.cursor.place.offset

/-- The current piece without its first and its last byte. -/
def inner? (l : Lexer) : Option String :=
  slice? l.source (l.start.offset + 1) (l.cursor.place.offset - 1)

def token (l : Lexer) (kind : Kind) (literal : Option Literal) : Item :=
  .token ⟨kind, l.lexeme?.getD "", literal, l.start.line⟩

/-! ## Pieces

Each of these is given the lexer after the first character of the piece. -/

/-- The rest of a string. Without a closing quote the fault is on the last line of the text. -/
def readString (l : Lexer) : Item × Lexer :=
  let l := l.skipWhile (· ≠ '"')
  match l.cursor.peek? with
  | none => (.diagnostic (.unterminatedString l.cursor.place.line), l)
  | some _ =>
    let l := l.advance
    (l.token .string (some (.string (l.inner?.getD ""))), l)

def skipNumeral (l : Lexer) : Lexer :=
  let l := l.skipWhile Char.isDigit
  if l.cursor.peek? = some '.' ∧ l.cursor.peekSecond?.any Char.isDigit then
    l.advance.skipWhile Char.isDigit
  else l

def readNumber (l : Lexer) : Item × Lexer :=
  let l := l.skipNumeral
  let value := (Numeral.parse? (l.lexeme?.getD "").toList).elim .nan Numeral.value
  (l.token .number (some (.number value)), l)

def readWord (l : Lexer) : Item × Lexer :=
  let l := l.skipWhile continuesWord
  (l.token ((Kind.ofSpelling? (l.lexeme?.getD "")).getD .identifier) none, l)

def readMark (c : Char) (l : Lexer) : Item × Lexer :=
  match Mark.withEqual? c, l.cursor.peek? with
  | some m, some '=' => let l := l.advance; (l.token (.mark m) none, l)
  | _, _ =>
    match Mark.single? c with
    | some m => (l.token (.mark m) none, l)
    | none => (.diagnostic (.unexpectedCharacter l.cursor.place.line c), l)

def readItem (c : Char) (l : Lexer) : Item × Lexer :=
  if c = '"' then l.readString
  else if c.isDigit then l.readNumber
  else if startsWord c then l.readWord
  else l.readMark c

/-- The rest of the piece that begins with `c`. Blanks and comments give nothing. -/
def readPiece (c : Char) (l : Lexer) : Option Item × Lexer :=
  if c.isWhitespace then (none, l)
  else if c = '/' ∧ l.cursor.peek? = some '/' then (none, l.skipWhile (· ≠ '\n'))
  else (some (l.readItem c).1, (l.readItem c).2)

/-! ### Reading moves forward only -/

@[simp] theorem cursor_mark (l : Lexer) : l.mark.cursor = l.cursor := rfl

@[simp] theorem cursor_advance (l : Lexer) : l.advance.cursor = l.cursor.advance := rfl

@[simp] theorem cursor_skipWhile (p : Char → Bool) (l : Lexer) :
    (l.skipWhile p).cursor = l.cursor.skipWhile p := rfl

def left (l : Lexer) : Nat := l.cursor.rest.length

theorem left_advance_le (l : Lexer) : l.advance.left ≤ l.left := l.cursor.length_rest_advance_le

theorem left_skipWhile_le (p : Char → Bool) (l : Lexer) : (l.skipWhile p).left ≤ l.left :=
  l.cursor.length_rest_skipWhile_le p

theorem left_readString_le (l : Lexer) : l.readString.2.left ≤ l.left := by
  have h := left_skipWhile_le (· ≠ '"') l
  unfold readString
  dsimp only
  split
  · exact h
  · exact Nat.le_trans (left_advance_le _) h

theorem left_skipNumeral_le (l : Lexer) : l.skipNumeral.left ≤ l.left := by
  have h := left_skipWhile_le Char.isDigit l
  unfold skipNumeral
  dsimp only
  split
  · exact Nat.le_trans (left_skipWhile_le _ _) (Nat.le_trans (left_advance_le _) h)
  · exact h

theorem left_readMark_le (c : Char) (l : Lexer) : (l.readMark c).2.left ≤ l.left := by
  unfold readMark
  split
  · exact left_advance_le l
  · split <;> exact Nat.le_refl _

theorem left_readItem_le (c : Char) (l : Lexer) : (l.readItem c).2.left ≤ l.left := by
  unfold readItem
  split
  · exact left_readString_le l
  · split
    · exact left_skipNumeral_le l
    · split
      · exact left_skipWhile_le _ l
      · exact left_readMark_le c l

theorem left_readPiece_le (c : Char) (l : Lexer) : (l.readPiece c).2.left ≤ l.left := by
  unfold readPiece
  split
  · exact Nat.le_refl _
  · split
    · exact left_skipWhile_le _ l
    · exact left_readItem_le c l

/-! ## The stream of items -/

def round (c : Char) (l : Lexer) : Option Item × Lexer := l.mark.advance.readPiece c

theorem left_round_lt {c : Char} {r : List Char} {l : Lexer} (h : l.cursor.rest = c :: r) :
    (l.round c).2.left < l.left := by
  have h₁ := left_readPiece_le c l.mark.advance
  have h₂ : l.mark.advance.left + 1 = l.left := by simp [left, h]
  unfold round
  omega

def next (l : Lexer) : Option Item × Lexer :=
  match _h : l.cursor.rest with
  | [] =>
    if l.ended then (none, l.mark)
    else (some (.token (.endOfFile l.cursor.place.line)), { l.mark with ended := true })
  | c :: _ =>
    match _h : l.round c with
    | (some item, l') => (some item, l')
    | (none, l') => next l'
termination_by l.left
decreasing_by
  have := left_round_lt ‹_›
  simp_all

end Lexer
end LoxLex
