/-!
# Decimal numerals

A numeral is a run of ASCII digits, optionally followed by a point and a second run. Its value is a whole
number of tenths, hundredths and so on, so it is kept exactly.
-/

namespace LoxLex

/-- The number `digits / 10 ^ places`. -/
structure Numeral where
  digits : Nat
  places : Nat
deriving DecidableEq

namespace Numeral

def shiftIn (n : Nat) (ds : List Char) : Nat :=
  ds.foldl (fun n d => 10 * n + (d.toNat - '0'.toNat)) n

@[simp] theorem shiftIn_nil (n : Nat) : shiftIn n [] = n := rfl

@[simp] theorem shiftIn_cons (n : Nat) (d : Char) (ds : List Char) :
    shiftIn n (d :: ds) = shiftIn (10 * n + (d.toNat - '0'.toNat)) ds := by
  simp only [shiftIn, List.foldl_cons]

theorem shiftIn_append (n : Nat) (ds es : List Char) :
    shiftIn n (ds ++ es) = shiftIn (shiftIn n ds) es := by
  simp [shiftIn, List.foldl_append]

/-- Reads a whole text as a numeral: both runs of digits have to be there. -/
def parse? (cs : List Char) : Option Numeral :=
  let whole := cs.takeWhile Char.isDigit
  if whole.isEmpty then none
  else
    match cs.dropWhile Char.isDigit with
    | [] => some ⟨shiftIn 0 whole, 0⟩
    | '.' :: part =>
      if !part.isEmpty && part.all Char.isDigit then some ⟨shiftIn 0 (whole ++ part), part.length⟩
      else none
    | _ => none

def whole? (cs : List Char) : Option Nat :=
  let digits := match cs with
    | '+' :: ds => ds
    | ds => ds
  if !digits.isEmpty && digits.all Char.isDigit then some (shiftIn 0 digits) else none

def dropSign : List Char → List Char
  | '+' :: cs | '-' :: cs => cs
  | cs => cs

def isExponent : List Char → Bool
  | [] => true
  | 'e' :: cs | 'E' :: cs => !(dropSign cs).isEmpty && (dropSign cs).all Char.isDigit
  | _ => false

/-- Whether a whole text is a number with a sign, a point and an exponent, each of which can be missing, or
the name of an infinity or of no number. One of the runs of digits around the point has to be there. -/
def isReal (cs : List Char) : Bool :=
  let cs := dropSign cs
  let whole := cs.takeWhile Char.isDigit
  let rest := cs.dropWhile Char.isDigit
  let part := if rest.head? = some '.' then rest.tail else []
  let exponent := if rest.head? = some '.' then part.dropWhile Char.isDigit else rest
  ["inf", "infinity", "nan"].contains (String.ofList (cs.map Char.toLower)) ||
    (!(whole.isEmpty && (part.takeWhile Char.isDigit).isEmpty) && isExponent exponent)

end Numeral
end LoxLex
