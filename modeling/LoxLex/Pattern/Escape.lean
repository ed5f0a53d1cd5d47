import LoxLex.Pattern.Basic

/-!
# Escapes of search patterns

What stands behind a backslash: a letter with a meaning, the number of a character, or a character of ASCII
that is neither a letter nor a digit and stands for itself.
-/

namespace LoxLex
namespace Pattern

def hexValue? (c : Char) : Option Nat :=
  if c.isDigit then some (c.toNat - '0'.toNat)
  else if 'a' ≤ c ∧ c ≤ 'f' then some (c.toNat - 'a'.toNat + 10)
  else if 'A' ≤ c ∧ c ≤ 'F' then some (c.toNat - 'A'.toNat + 10)
  else none

def hexNumber? (f : Flags) : Nat → Nat → List Char → Option (Nat × List Char)
  | 0, n, cs => some (n, cs)
  | digits + 1, n, cs =>
    match f.skip cs with
    | [] => none
    | c :: cs => (hexValue? c).bind fun d => hexNumber? f digits (16 * n + d) cs

def hexLetters : List (Char × Nat) := [('x', 2), ('u', 4), ('U', 8)]

def letters : List (Char × Piece) :=
  [('a', .char '\x07' false), ('f', .char '\x0c' false), ('t', .char '\t' false), ('n', .char '\n' false),
   ('r', .char '\r' false), ('v', .char '\x0b' false), ('A', .anchor), ('z', .anchor), ('b', .wordEdge),
   ('B', .wordEdge), ('<', .wordEdge), ('>', .wordEdge), ('d', .kind false), ('s', .kind false),
   ('w', .kind false), ('D', .kind true), ('S', .kind true), ('W', .kind true)]

def escape? (f : Flags) : List Char → Option (Piece × List Char)
  | [] => none
  | c :: cs =>
    match hexLetters.lookup c with
    | some digits => do
      let (n, cs) ← hexNumber? f digits 0 cs
      if n.isValidChar then some (.char (.ofNat n) (c = 'x'), cs) else none
    | none =>
      match letters.lookup c with
      | some p => some (p, cs)
      | none => if c.toNat < 0x80 && !c.isAlphanum then some (.char c false, cs) else none

section
variable {f : Flags} {cs rest : List Char}

theorem length_hexNumber?_le {digits n m : Nat} (h : hexNumber? f digits n cs = some (m, rest)) :
    rest.length ≤ cs.length := by
  induction digits generalizing n cs with
  | zero =>
    cases h
    exact Nat.le_refl _
  | succ digits ih =>
    have hs := f.length_skip_le cs
    unfold hexNumber? at h
    cases hc : f.skip cs with
    | nil =>
      rw [hc] at h
      cases h
    | cons c cs' =>
      rw [hc] at h hs
      obtain ⟨d, -, h⟩ := Option.bind_eq_some_iff.mp h
      exact Nat.le_trans (ih h) (Nat.le_of_succ_le hs)

theorem length_escape?_lt {p : Piece} (h : escape? f cs = some (p, rest)) : rest.length < cs.length := by
  cases cs with
  | nil => cases h
  | cons c cs =>
    rw [List.length_cons, Nat.lt_succ_iff]
    unfold escape? at h
    cases hx : hexLetters.lookup c with
    | some digits =>
      simp only [hx] at h
      obtain ⟨⟨n, rest'⟩, hn, h⟩ := Option.bind_eq_some_iff.mp h
      have hl := length_hexNumber?_le hn
      dsimp only at h
      split at h
      · cases h
        exact hl
      · cases h
    | none =>
      simp only [hx] at h
      split at h
      · cases h
        exact Nat.le_refl _
      · split at h
        · cases h
          exact Nat.le_refl _
        · cases h

end

end Pattern
end LoxLex
