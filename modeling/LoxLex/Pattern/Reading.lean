import LoxLex.Pattern.Bracket
import LoxLex.Text.Alphanumeric

/-!
# Reading search patterns

`isPattern` says which texts are patterns. A brace that opens is never matched by one that closes, so that
there are no counted repetitions and no braces in escapes.
-/

namespace LoxLex
namespace Pattern

/-- Branches side by side, of which the last is still open. Its last piece is apart from those before it, if
it can be repeated. -/
structure Branches where
  closed : Row := {}
  before : Row := {}
  last : Option Nat := none
deriving DecidableEq

namespace Branches

def pieces (b : Branches) : Row := b.last.elim b.before b.before.add

def add (b : Branches) (depth : Nat) : Branches := ⟨b.closed, b.pieces, some depth⟩

def addFlags (b : Branches) : Branches := ⟨b.closed, b.pieces.add 0, none⟩

def split (b : Branches) : Branches := ⟨b.closed.add b.pieces.depth, {}, none⟩

def depth (b : Branches) : Nat := (b.closed.add b.pieces.depth).depth

end Branches

/-- What has been read: the flags now in force, the branches of the innermost open group, the flags and the
branches around each open group, and the names of groups. -/
structure Reading where
  flags : Flags := {}
  inner : Branches := {}
  outer : List (Flags × Branches) := []
  names : List (List Char) := []
deriving DecidableEq

/-! ## Groups -/

def Flags.set (f : Flags) (letter : Char) (value : Bool) : Flags :=
  match letter with
  | 'i' => { f with ignoreCase := value }
  | 'u' => { f with unicode := value }
  | 'x' => { f with spaced := value }
  | _ => f

def flagLetters : List Char := ['i', 'm', 's', 'U', 'u', 'R', 'x']

/-- Reads letters of flags up to the sign that ends them, and gives it with what stands behind it. Letters
after the hyphen are switched off. -/
def flagList? (f : Flags) (seen : List Char) : List Char → Option (Flags × Char × List Char)
  | [] => none
  | c :: cs =>
    if c = ':' ∨ (c = ')' ∧ seen ≠ []) then
      if seen.head? = some '-' then none else some (f, c, cs)
    else if seen.contains c then none
    else if c = '-' then flagList? f (c :: seen) cs
    else if flagLetters.contains c then flagList? (f.set c (!seen.contains '-')) (c :: seen) cs
    else none

def isGroupName : List Char → Bool
  | [] => false
  | c :: cs =>
    (c = '_' || isAlphabetic c) &&
      cs.all fun c => c = '_' || c = '.' || c = '[' || c = ']' || isAlphanumeric c

namespace Reading

def enter (r : Reading) (f : Flags) : Reading :=
  { r with flags := f, inner := {}, outer := (r.flags, r.inner) :: r.outer }

def namedGroup? (r : Reading) (cs : List Char) : Option (Reading × List Char) :=
  let name := cs.takeWhile (· ≠ '>')
  match cs.dropWhile (· ≠ '>') with
  | [] => none
  | _ :: cs =>
    if isGroupName name && !r.names.contains name then
      some ({ r.enter r.flags with names := name :: r.names }, cs)
    else none

def group? (r : Reading) (cs : List Char) : Option (Reading × List Char) :=
  match r.flags.skip cs with
  | '?' :: 'P' :: '<' :: cs | '?' :: '<' :: cs => r.namedGroup? cs
  | '?' :: cs =>
    (flagList? r.flags [] cs).map fun (f, sign, cs) =>
      (if sign = ':' then r.enter f else { r with flags := f, inner := r.inner.addFlags }, cs)
  | cs => some (r.enter r.flags, cs)

/-! ## Pieces -/

def add (r : Reading) (depth : Nat) : Reading := { r with inner := r.inner.add depth }

def take? (r : Reading) (p : Piece) (cs : List Char) : Option (Reading × List Char) :=
  if r.flags.allows p then some (r.add 0, cs) else none

/-- A sign of repetition is for the last piece, and a question mark behind it is a part of it. -/
def repeat? (r : Reading) (cs : List Char) : Option (Reading × List Char) :=
  r.inner.last.map fun depth =>
    ({ r with inner.last := some (depth + 1) }, if cs.head? = some '?' then cs.tail else cs)

def piece? (r : Reading) (c : Char) (cs : List Char) : Option (Reading × List Char) :=
  match c with
  | '(' => r.group? cs
  | ')' =>
    match r.outer with
    | [] => none
    | (f, b) :: outer => some ({ r with flags := f, inner := b.add (r.inner.depth + 1), outer := outer }, cs)
  | '|' => some ({ r with inner := r.inner.split }, cs)
  | '[' => (class? r.flags cs).map fun (depth, cs) => (r.add depth, cs)
  | '?' | '*' | '+' => r.repeat? cs
  | '\x7b' => none
  | '\\' => (escape? r.flags cs).bind fun (p, cs) => r.take? p cs
  | '.' => if r.flags.allowsNegation then some (r.add 0, cs) else none
  | '^' | '$' => r.take? .anchor cs
  | c => r.take? (.char c false) cs

end Reading

/-! ## What is left -/

section
variable {f f' : Flags} {r r' : Reading} {c : Char} {cs rest : List Char}

theorem length_flagList?_lt {seen : List Char} (h : flagList? f seen cs = some (f', c, rest)) :
    rest.length < cs.length := by
  fun_induction flagList? f seen cs with
  | case3 =>
    cases h
    exact Nat.lt_succ_self _
  | case5 | case6 =>
    rename_i ih
    exact Nat.lt_succ_of_lt (ih h)
  | _ => cases h

namespace Reading

theorem length_namedGroup?_lt (h : r.namedGroup? cs = some (r', rest)) : rest.length < cs.length := by
  have hd := (List.dropWhile_sublist (l := cs) (· ≠ '>')).length_le
  unfold namedGroup? at h
  dsimp only at h
  split at h
  · cases h
  · rename_i hc
    rw [hc] at hd
    split at h
    · cases h
      exact hd
    · cases h

theorem length_group?_le (h : r.group? cs = some (r', rest)) : rest.length ≤ cs.length := by
  refine Nat.le_trans ?_ (r.flags.length_skip_le cs)
  unfold group? at h
  generalize r.flags.skip cs = cs at h ⊢
  split at h
  · have := length_namedGroup?_lt h
    simp only [List.length_cons]
    omega
  · have := length_namedGroup?_lt h
    simp only [List.length_cons]
    omega
  · obtain ⟨⟨f, sign, rest'⟩, hf, he⟩ := Option.map_eq_some_iff.mp h
    have := length_flagList?_lt hf
    cases he
    simp only [List.length_cons]
    omega
  · cases h
    exact Nat.le_refl _

theorem length_take?_le {p : Piece} (h : r.take? p cs = some (r', rest)) : rest.length ≤ cs.length := by
  unfold take? at h
  split at h <;> cases h
  exact Nat.le_refl _

theorem length_repeat?_le (h : r.repeat? cs = some (r', rest)) : rest.length ≤ cs.length := by
  obtain ⟨depth, -, he⟩ := Option.map_eq_some_iff.mp h
  cases he
  split <;> simp

theorem length_piece?_le (h : r.piece? c cs = some (r', rest)) : rest.length ≤ cs.length := by
  unfold piece? at h
  split at h
  · exact length_group?_le h
  · split at h <;> cases h
    exact Nat.le_refl _
  · cases h
    exact Nat.le_refl _
  · obtain ⟨⟨depth, rest'⟩, hc, he⟩ := Option.map_eq_some_iff.mp h
    cases he
    exact Nat.le_of_lt (length_class?_lt hc)
  · exact length_repeat?_le h
  · exact length_repeat?_le h
  · exact length_repeat?_le h
  · cases h
  · obtain ⟨⟨p, rest'⟩, hp, h⟩ := Option.bind_eq_some_iff.mp h
    exact Nat.le_trans (length_take?_le h) (Nat.le_of_lt (length_escape?_lt hp))
  · split at h <;> cases h
    exact Nat.le_refl _
  · exact length_take?_le h
  · exact length_take?_le h
  · exact length_take?_le h

/-! ## Whole patterns -/

/-- Reads to the end. -/
def all? (r : Reading) (cs : List Char) : Option Reading :=
  match _h : r.flags.skip cs with
  | [] => some r
  | c :: rest =>
    match _hp : r.piece? c rest with
    | some (r', rest') => all? r' rest'
    | none => none
termination_by cs.length
decreasing_by
  have hs := r.flags.length_skip_le cs
  rw [_h] at hs
  exact Nat.lt_of_le_of_lt (length_piece?_le _hp) hs

end Reading
end

def depthLimit : Nat := 250

def isPattern (cs : List Char) : Bool :=
  (Reading.all? {} cs).any fun r => r.outer.isEmpty && r.inner.depth ≤ depthLimit

end Pattern
end LoxLex
