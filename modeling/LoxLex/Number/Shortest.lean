import LoxLex.Number.Binary64

/-!
# The shortest decimal of a number

Of the decimals that round to a given finite number, the one with the fewest digits, and of several of
those the nearest to it; between two equally near ones, the larger. Each grid of decimals, from the
coarsest on, is tried at the two points around the number.
-/

namespace LoxLex

/-- The number `digits * 10 ^ exponent`. -/
structure Decimal where
  digits : Nat
  exponent : Int
deriving DecidableEq

def Decimal.value (m : Decimal) : Binary64 :=
  .ofRatio (m.digits * Nat.pow 10 m.exponent.toNat) (Nat.pow 10 (-m.exponent).toNat)

namespace Binary64

/-- The two multiples of `10 ^ e` around the magnitude of `x`, the nearer one first. -/
def neighbours (x : Binary64) (e : Int) : List Decimal :=
  let n := x.units * Nat.pow 10 (-e).toNat
  let d := Nat.pow 10 e.toNat <<< 1074
  let below : Decimal := ⟨n / d, e⟩
  let above : Decimal := ⟨n / d + 1, e⟩
  if d ≤ 2 * (n % d) then [above, below] else [below, above]

/-- An exponent whose power of ten is larger than the magnitude of `x`. -/
def topExponent (x : Binary64) : Int :=
  ((x.units.log2 : Int) - 1073) * 30103 / 100000 + 1

/-- The magnitude of `x` in full: a unit is `5 ^ 1074` in the last of 1074 decimal places. -/
def exact (x : Binary64) : Decimal := ⟨x.units * Nat.pow 5 1074, -1074⟩

/-- The shortest decimal that rounds to the finite positive number `x`. -/
def shortest (x : Binary64) : Decimal :=
  let onGrid (e : Int) := (x.neighbours e).find? fun m => m.value = x
  ((List.range 20).findSome? fun (i : Nat) => onGrid (x.topExponent - (i : Int))).getD x.exact

end Binary64
end LoxLex
