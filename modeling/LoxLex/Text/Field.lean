/-!
# Fields

A field is a place for a text in a line: the text is cut to a precision if there is one, and then padded
to a width. What a field does to a value is decided by the value's type.
-/

namespace LoxLex

inductive Align
  | left | right | centre
deriving DecidableEq

structure Field where
  align : Align := .left
  fill : Char := ' '
  width : Nat := 0
  precision : Option Nat := none
deriving DecidableEq

namespace Field

def margins (f : Field) (gap : Nat) : Nat × Nat :=
  match f.align with
  | .left => (0, gap)
  | .right => (gap, 0)
  | .centre => (gap / 2, gap - gap / 2)

def pad (f : Field) (cs : List Char) : List Char :=
  let shown := match f.precision with
    | some n => cs.take n
    | none => cs
  let (before, after) := f.margins (f.width - shown.length)
  List.replicate before f.fill ++ shown ++ List.replicate after f.fill

end Field

class Fielded (α : Type) where
  inField : Field → α → String

end LoxLex
