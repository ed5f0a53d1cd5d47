import LoxLex.Number.Numeral

/-!
# Double precision numbers

A number is its 64-bit word: one sign bit, 11 bits of exponent, 52 bits of fraction. Every finite magnitude
is a whole number of units, where a unit is the least positive magnitude, 2 ^ -1074. Rounding works on such
counts of units in exact natural arithmetic.
-/

namespace LoxLex

structure Binary64 where
  bits : UInt64
deriving DecidableEq

namespace Binary64

def signBit : Nat := 0x8000000000000000

/-- The weight of the lowest exponent bit, `2 ^ 52`. A normal number has this much more than its fraction. -/
def hiddenBit : Nat := 0x10000000000000

def infinity : Binary64 := ⟨0x7ff0000000000000⟩
def nan : Binary64 := ⟨0x7ff8000000000000⟩

/-! ## Fields of the word -/

def isNegative (x : Binary64) : Bool := signBit ≤ x.bits.toNat

/-- The word without its sign bit. It orders magnitudes. -/
def magnitude (x : Binary64) : Nat := x.bits.toNat % signBit

def isNaN (x : Binary64) : Bool := infinity.magnitude < x.magnitude

def isInfinite (x : Binary64) : Bool := x.magnitude == infinity.magnitude

def isZero (x : Binary64) : Bool := x.magnitude == 0

def abs (x : Binary64) : Binary64 := ⟨UInt64.ofNat x.magnitude⟩

def units (x : Binary64) : Nat :=
  let exponent := x.magnitude / hiddenBit
  let fraction := x.magnitude % hiddenBit
  if exponent = 0 then fraction else (hiddenBit + fraction) <<< (exponent - 1)

/-- Numeric equality: the two zeros are equal, and what is not a number equals nothing. -/
instance : BEq Binary64 where
  beq x y := !x.isNaN && !y.isNaN && (x.bits == y.bits || (x.isZero && y.isZero))

/-! ## Rounding -/

/-- The quotient `n / d` rounded to the nearest whole number, a half to the even one. -/
def roundDiv (n d : Nat) : Nat :=
  let q := n / d
  let r := n % d
  if d < 2 * r ∨ (d = 2 * r ∧ q % 2 = 1) then q + 1 else q

/-- The word of the magnitude `n / d`, counted in units, with `n / d` rounded to 53 significant bits.
A carry out of the fraction moves into the exponent, and the largest exponent is infinity. -/
def roundUnits (n d : Nat) : Nat :=
  let shift := (n / d).log2 - 52
  min (roundDiv n (d <<< shift) + shift * hiddenBit) infinity.magnitude

def ofRatio (num den : Nat) : Binary64 :=
  ⟨UInt64.ofNat (roundUnits (num <<< 1074) den)⟩

/-- The number nearest to the `n`-th part of the sum of two finite magnitudes. -/
def sumOver (x y : Binary64) (n : Nat) : Binary64 := ofRatio (x.units + y.units) (n <<< 1074)

end Binary64

def Numeral.value (x : Numeral) : Binary64 := .ofRatio x.digits (Nat.pow 10 x.places)

end LoxLex
