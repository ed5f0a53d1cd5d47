import LoxLex.Number.Shortest

/-!
# Writing numbers

A number is written by its shortest decimal, either with all its places or with an exponent. A style says
which of the two, and whether a whole number shows a place of its own.
-/

namespace LoxLex

structure NumberStyle where
  /-- Whether a number whose first digit stands at this power of ten is written with all its places. -/
  positional : Int → Bool
  /-- Whether a whole number written with all its places ends in a point and a zero. -/
  pointZero : Bool

namespace NumberStyle

/-- All places, and no point in a whole number. -/
def plain : NumberStyle := ⟨fun _ => true, false⟩

/-- An exponent from `10 ^ 16` upwards and below `10 ^ -4`, and a point in every other number. -/
def inspected : NumberStyle := ⟨fun e => -4 ≤ e && e ≤ 15, true⟩

def zeros (n : Nat) : List Char := List.replicate n '0'

def positionalText (style : NumberStyle) (m : Decimal) : List Char :=
  let ds := Nat.toDigits 10 m.digits
  if 0 ≤ m.exponent then
    ds ++ zeros m.exponent.toNat ++ (if style.pointZero then ['.', '0'] else [])
  else
    let places := (-m.exponent).toNat
    if places < ds.length then
      ds.take (ds.length - places) ++ '.' :: ds.drop (ds.length - places)
    else
      '0' :: '.' :: zeros (places - ds.length) ++ ds

def exponentText (m : Decimal) (power : Int) : List Char :=
  let mantissa :=
    match Nat.toDigits 10 m.digits with
    | d :: e :: ds => d :: '.' :: e :: ds
    | ds => ds
  mantissa ++ 'e' :: (toString power).toList

def leadingPower (m : Decimal) : Int :=
  m.exponent + ((Nat.toDigits 10 m.digits).length - 1 : Nat)

def magnitudeText (style : NumberStyle) (x : Binary64) : List Char :=
  if x.isInfinite then ['i', 'n', 'f']
  else if x.isZero then style.positionalText ⟨0, 0⟩
  else
    let m := x.shortest
    if style.positional (leadingPower m) then style.positionalText m else exponentText m (leadingPower m)

def text (style : NumberStyle) (x : Binary64) : String :=
  if x.isNaN then "NaN"
  else .ofList ((if x.isNegative then ['-'] else []) ++ style.magnitudeText x.abs)

end NumberStyle
end LoxLex
