import LoxLex.Pattern.Escape

/-!
# Classes of characters in search patterns

A class stands in brackets. It holds characters, ranges, named kinds and further classes, and signs between
these that intersect or subtract.
-/

namespace LoxLex
namespace Pattern

def kindNames : List String :=
  ["alnum", "alpha", "ascii", "blank", "cntrl", "digit", "graph", "lower", "print", "punct", "space", "upper",
   "word", "xdigit"]

def kindName? (negated : Bool) (cs : List Char) : Option (Bool × List Char) :=
  match cs.dropWhile (· ≠ ':') with
  | ':' :: ']' :: rest =>
    if kindNames.contains (.ofList (cs.takeWhile (· ≠ ':'))) then some (negated, rest) else none
  | _ => none

def namedKind? : List Char → Option (Bool × List Char)
  | ':' :: '^' :: cs => kindName? true cs
  | ':' :: cs => kindName? false cs
  | _ => none

def Flags.allowsKind (f : Flags) (negated : Bool) : Bool :=
  if f.unicode then !f.ignoreCase else !negated

/-- An open class: how deep the sides of the signs before are nested, and the members since. -/
structure OpenClass where
  left : Option Nat := none
  members : Row := {}
deriving DecidableEq

namespace OpenClass

def add (c : OpenClass) (depth : Nat) : OpenClass := { c with members := c.members.add depth }

def depth (c : OpenClass) : Nat := c.left.elim c.members.depth (max · c.members.depth + 1)

def split (c : OpenClass) : OpenClass := ⟨some c.depth, {}⟩

end OpenClass

/-- Reads the beginning of a class behind its bracket. Hyphens that come first, and a closing bracket that
does, are characters of the class. -/
def openClass? (f : Flags) (cs : List Char) : Option (OpenClass × List Char) :=
  let inner := f.skip cs
  let negated := inner.head? = some '^'
  let inner := if negated then f.skip inner.tail else inner
  if negated && !f.allowsNegation then none
  else
    match inner with
    | '-' :: cs =>
      let rest := f.skipWith ['-'] false cs
      let hyphens := (cs.take (cs.length - rest.length)).count '-' + 1
      if f.allowsInClass (.char '-' false) then some (⟨none, ⟨hyphens, 0⟩⟩, rest) else none
    | ']' :: cs =>
      if f.allowsInClass (.char ']' false) then some (⟨none, ⟨1, 0⟩⟩, f.skip cs) else none
    | _ => some ({}, inner)

def classPiece? (f : Flags) : List Char → Option (Piece × List Char)
  | [] => none
  | '\\' :: cs => escape? f cs
  | c :: cs => some (.char c false, cs)

/-- The character behind a hyphen. Of a comment only the sign and the blanks after it are passed over. -/
def afterHyphen? (f : Flags) (cs : List Char) : Option Char :=
  if f.spaced then
    let cs₁ := cs.dropWhile isBlank
    let cs₂ := if cs₁.head? = some '#' then cs₁.tail.dropWhile isBlank else cs₁
    cs₂.head? <|> cs.head?
  else cs.head?

def Flags.allowsRange (f : Flags) : Piece → Piece → Bool
  | .char c b, .char d b' => c ≤ d && f.allowsInClass (.char c b) && f.allowsInClass (.char d b')
  | _, _ => false

def member? (f : Flags) (cs : List Char) : Option (List Char) := do
  let (p, cs) ← classPiece? f cs
  let alone := if f.allowsInClass p then some (f.skip cs) else none
  match f.skip cs with
  | '-' :: rest =>
    let next := afterHyphen? f rest
    if next = some ']' || next = some '-' then alone
    else
      let (q, rest) ← classPiece? f (f.skip rest)
      if f.allowsRange p q then some rest else none
  | _ => alone

/-! ## What is left -/

section
variable {f : Flags} {cs rest : List Char}

theorem length_kindName?_lt {negated n : Bool} (h : kindName? negated cs = some (n, rest)) :
    rest.length < cs.length := by
  have hd := (List.dropWhile_sublist (l := cs) (· ≠ ':')).length_le
  unfold kindName? at h
  split at h
  · rename_i rest' hr
    rw [hr] at hd
    split at h
    · cases h
      exact Nat.lt_of_succ_lt hd
    · cases h
  · cases h

theorem length_namedKind?_lt {n : Bool} (h : namedKind? cs = some (n, rest)) : rest.length < cs.length := by
  unfold namedKind? at h
  split at h
  · exact Nat.lt_succ_of_lt (Nat.lt_succ_of_lt (length_kindName?_lt h))
  · exact Nat.lt_succ_of_lt (length_kindName?_lt h)
  · cases h

theorem length_openClass?_le {c : OpenClass} (h : openClass? f cs = some (c, rest)) : rest.length ≤ cs.length := by
  have hs := f.length_skip_le cs
  have hi : (if (f.skip cs).head? = some '^' then f.skip (f.skip cs).tail else f.skip cs).length ≤ cs.length := by
    split
    · exact Nat.le_trans (f.length_skip_le _) (Nat.le_trans (by simp) hs)
    · exact hs
  unfold openClass? at h
  dsimp only at h
  split at h
  · cases h
  · split at h
    · rename_i cs' hc
      rw [hc] at hi
      split at h
      · cases h
        exact Nat.le_trans (f.length_skipWith_le _ _ cs') (Nat.le_of_succ_le hi)
      · cases h
    · rename_i cs' hc
      rw [hc] at hi
      split at h
      · cases h
        exact Nat.le_trans (f.length_skip_le cs') (Nat.le_of_succ_le hi)
      · cases h
    · cases h
      exact hi

theorem length_classPiece?_lt {p : Piece} (h : classPiece? f cs = some (p, rest)) : rest.length < cs.length := by
  unfold classPiece? at h
  split at h
  · cases h
  · exact Nat.lt_succ_of_lt (length_escape?_lt h)
  · cases h
    exact Nat.lt_succ_self _

theorem length_member?_lt (h : member? f cs = some rest) : rest.length < cs.length := by
  unfold member? at h
  obtain ⟨⟨p, cs'⟩, hp, h⟩ := Option.bind_eq_some_iff.mp h
  have hl := length_classPiece?_lt hp
  have hs := f.length_skip_le cs'
  have ha : ∀ {r}, (if f.allowsInClass p then some (f.skip cs') else none) = some r → r.length < cs.length := by
    intro r hr
    split at hr
    · cases hr
      exact Nat.lt_of_le_of_lt hs hl
    · cases hr
  dsimp only at h
  split at h
  · -- a hyphen, and what may be the end of a range
    rename_i cs₁ hc
    split at h
    · exact ha h
    · obtain ⟨⟨q, rest'⟩, hq, h⟩ := Option.bind_eq_some_iff.mp h
      have hq := length_classPiece?_lt hq
      have h₁ := f.length_skip_le cs₁
      rw [hc, List.length_cons] at hs
      dsimp only at h
      split at h
      · cases h
        omega
      · cases h
  · exact ha h

end

/-! ## Whole classes -/

/-- Where a step in a class leads: into an open class, with those around it, or behind the outermost one. -/
inductive ClassStep
  | within (inner : OpenClass) (outer : List OpenClass)
  | behind (depth : Nat)

def classStep? (f : Flags) (inner : OpenClass) (outer : List OpenClass) (cs : List Char) :
    Option (ClassStep × List Char) :=
  match f.skip cs with
  | '[' :: rest =>
    match namedKind? rest with
    | some (negated, rest) => if f.allowsKind negated then some (.within (inner.add 0) outer, rest) else none
    | none => (openClass? f rest).map fun (c, rest) => (.within c (inner :: outer), rest)
  | ']' :: rest =>
    match outer with
    | [] => some (.behind (inner.depth + 1), rest)
    | c :: outer => some (.within (c.add (inner.depth + 1)) outer, rest)
  | '&' :: '&' :: rest | '-' :: '-' :: rest | '~' :: '~' :: rest => some (.within inner.split outer, rest)
  | rest => (member? f rest).map fun rest => (.within (inner.add 0) outer, rest)

theorem length_classStep?_lt {f : Flags} {inner : OpenClass} {outer : List OpenClass} {cs rest : List Char}
    {s : ClassStep} (h : classStep? f inner outer cs = some (s, rest)) : rest.length < cs.length := by
  refine Nat.lt_of_lt_of_le ?_ (f.length_skip_le cs)
  unfold classStep? at h
  generalize f.skip cs = cs at h ⊢
  split at h
  · refine Nat.lt_succ_of_le ?_
    split at h
    · rename_i hk
      split at h
      · cases h
        exact Nat.le_of_lt (length_namedKind?_lt hk)
      · cases h
    · obtain ⟨⟨c, rest'⟩, ho, he⟩ := Option.map_eq_some_iff.mp h
      cases he
      exact length_openClass?_le ho
  · refine Nat.lt_succ_of_le ?_
    split at h <;> cases h <;> exact Nat.le_refl _
  -- the three signs
  · cases h
    exact Nat.lt_succ_of_lt (Nat.lt_succ_self _)
  · cases h
    exact Nat.lt_succ_of_lt (Nat.lt_succ_self _)
  · cases h
    exact Nat.lt_succ_of_lt (Nat.lt_succ_self _)
  · obtain ⟨rest', hm, he⟩ := Option.map_eq_some_iff.mp h
    cases he
    exact length_member?_lt hm

/-- Reads up to the end of the outermost of the open classes and gives its depth. -/
def closeClass? (f : Flags) (inner : OpenClass) (outer : List OpenClass) (cs : List Char) :
    Option (Nat × List Char) :=
  match _h : classStep? f inner outer cs with
  | some (.within inner outer, rest) => closeClass? f inner outer rest
  | some (.behind depth, rest) => some (depth, rest)
  | none => none
termination_by cs.length
decreasing_by exact length_classStep?_lt _h

theorem length_closeClass?_lt {f : Flags} {inner : OpenClass} {outer : List OpenClass} {cs rest : List Char}
    {depth : Nat} (h : closeClass? f inner outer cs = some (depth, rest)) : rest.length < cs.length := by
  fun_induction closeClass? f inner outer cs with
  | case1 inner outer cs inner' outer' rest' hs ih => exact Nat.lt_trans (ih h) (length_classStep?_lt hs)
  | case2 inner outer cs depth rest' hs =>
    cases h
    exact length_classStep?_lt hs
  | case3 => cases h

def class? (f : Flags) (cs : List Char) : Option (Nat × List Char) :=
  (openClass? f cs).bind fun (c, rest) => closeClass? f c [] rest

theorem length_class?_lt {f : Flags} {cs rest : List Char} {depth : Nat} (h : class? f cs = some (depth, rest)) :
    rest.length < cs.length := by
  obtain ⟨⟨c, rest'⟩, ho, h⟩ := Option.bind_eq_some_iff.mp h
  exact Nat.lt_of_lt_of_le (length_closeClass?_lt h) (length_openClass?_le ho)

end Pattern
end LoxLex
