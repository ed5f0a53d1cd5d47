/-!
# Text on a terminal

A terminal takes an escape character and some of what follows it for a command, and so other control
characters on their own. `visible` is a text without them. Tabs and line breaks stay.
-/

namespace LoxLex
namespace Terminal

/-- What a character is read as: text, or a part of one of the kinds of command. -/
inductive Mode
  | text
  | escape | escapeTail
  | sequence
  | device | deviceValues | deviceTail
  | string
  | title
deriving DecidableEq

def isWithin (low high : Nat) (c : Char) : Bool := low ≤ c.toNat && c.toNat ≤ high

/-- Whether `c` ends a control string: the terminator is a single byte, which the bytes of a longer
character can hold. -/
def isTerminator (c : Char) : Bool := (String.utf8EncodeChar c).contains 0x9c

/-- The mode after a character that is not shown. Escape begins a command, and cancel and substitute end one,
wherever they stand. -/
def Mode.after (m : Mode) (c : Char) : Mode :=
  if c = '\x1b' then .escape
  else if c = '\x18' ∨ c = '\x1a' then .text
  else
    match m with
    | .text => .text
    | .escape =>
      if c = '[' then .sequence
      else if c = ']' then .title
      else if c = 'P' then .device
      else if c = 'X' ∨ c = '^' ∨ c = '_' then .string
      else if isWithin 0x20 0x2f c then .escapeTail
      else if isWithin 0x30 0x7e c then .text else .escape
    | .escapeTail => if isWithin 0x30 0x7e c then .text else .escapeTail
    | .sequence => if isWithin 0x40 0x7e c then .text else .sequence
    | .device =>
      if isWithin 0x20 0x2f c then .deviceTail
      else if isWithin 0x30 0x3f c then .deviceValues
      else if isWithin 0x40 0x7e c then .string else .device
    | .deviceValues =>
      if isWithin 0x20 0x2f c then .deviceTail
      else if isWithin 0x3c 0x7e c then .string else .deviceValues
    | .deviceTail => if isWithin 0x30 0x7e c then .string else .deviceTail
    | .string => if isTerminator c then .text else .string
    | .title => if c = '\x07' then .text else .title

def isSpacing (c : Char) : Bool := c = '\t' || c = '\n' || c = '\x0c' || c = '\r'

def isPrintable (c : Char) : Bool := isSpacing c || (0x20 ≤ c.toNat && c ≠ '\x7f')

/-- The characters shown so far are `shown`, and `running` says that the last one read is among them. -/
structure Reading where
  mode : Mode := .text
  running : Bool := false
  shown : String := ""

namespace Reading

/-- Spacing within a short command is shown, and so is the printable text that follows it. -/
def shows (r : Reading) (c : Char) : Bool :=
  if r.running || r.mode = .text then isPrintable c
  else isSpacing c && (r.mode = .escape || r.mode = .escapeTail || r.mode = .sequence)

/-- A command that was interrupted goes on after the text that is shown, unless that has a character beyond
ASCII. -/
def push (r : Reading) (c : Char) : Reading :=
  if r.shows c then ⟨if c.toNat < 0x80 then r.mode else .text, true, r.shown.push c⟩
  else ⟨r.mode.after c, false, r.shown⟩

end Reading

def visible (s : String) : String := (s.toList.foldl Reading.push {}).shown

end Terminal
end LoxLex
