import LoxLex.Command.Log.Level
import LoxLex.Pattern.Reading

/-!
# Directives of the log

A directive sets a level for what its subject names: a target, a span and a field of it, each of which can be
missing. It is a level alone, a target alone, for which everything is admitted, or a subject with a level:
`target[span{field=value}]=level`.
-/

namespace LoxLex

/-- Fields of spans are whole numbers, so that a test for another number or for a pattern is never met. -/
inductive ValueTest
  | any
  | equals (n : Nat)
  | other (text : String)
deriving DecidableEq

structure FieldTest where
  name : String
  value : ValueTest
deriving DecidableEq

structure Subject where
  target : String := ""
  span : Option String := none
  field : Option FieldTest := none
deriving DecidableEq

structure Directive where
  subject : Subject
  level : Level
deriving DecidableEq

def ValueTest.accepts : ValueTest → Nat → Bool
  | .any, _ => true
  | .equals m, n => m = n
  | .other _, _ => false

def ValueTest.ofChars? (cs : List Char) : Option ValueTest :=
  match Numeral.whole? cs with
  | some n => some (.equals n)
  | none => if Numeral.isReal cs || Pattern.isPattern cs then some (.other (.ofList cs)) else none

/-- What follows a second sign of equality is ignored. -/
def FieldTest.ofChars? (cs : List Char) : Option FieldTest :=
  let name := String.ofList (cs.takeWhile (· ≠ '='))
  match cs.dropWhile (· ≠ '=') with
  | [] => some ⟨name, .any⟩
  | _ :: rest => (ValueTest.ofChars? (rest.takeWhile (· ≠ '='))).map (⟨name, ·⟩)

namespace Directive

/-! ## Reading -/

/-- A text in reading: each character with the one that is taken in its place. -/
abbrev Paired := List (Char × Char)

def taken (ps : Paired) : List Char := ps.map (·.2)

def isFirst (c : Char) : Bool := c = '-' || c = ':' || c = '_' || isAlphanumeric c

/-- A level that is left out admits everything. -/
def withLevel? (s : Subject) (level : List Char) : Option Directive :=
  if level.isEmpty then some ⟨s, .trace⟩ else (Level.ofChars? level).map (⟨s, ·⟩)

section Parts
variable (s : Subject) (rest : List Char)

def afterSpan? : Paired → Option Directive
  | [] => some ⟨s, .trace⟩
  | ('=', _) :: ps => withLevel? s (taken ps ++ rest)
  | _ => none

def field? (ps : Paired) : Option Directive :=
  let test := ps.takeWhile (·.1 ≠ '\x7d')
  match ps.dropWhile (·.1 ≠ '\x7d') with
  | _ :: (']', _) :: ps =>
    if test.isEmpty then none
    else (FieldTest.ofChars? (taken test)).bind fun t => afterSpan? { s with field := some t } rest ps
  | _ => none

def span? (ps : Paired) : Option Directive :=
  let isInName (p : Char × Char) := p.1 ≠ ']' && p.1 ≠ '\x7b'
  let name := String.ofList (taken (ps.takeWhile isInName))
  match ps.dropWhile isInName with
  | [] => none
  | (']', _) :: ps => afterSpan? { s with span := some name } rest ps
  | _ :: ps => field? { s with span := if name = "" then none else some name } rest ps

end Parts

/-- A directive is read without the blanks around it. The parts of it are then taken from the text with the
blanks, at the same places and with all that is left behind the last. -/
def ofChars? (cs : List Char) : Option Directive :=
  let inner := trim cs
  let rest := cs.drop inner.length
  match inner.zip cs with
  | [] => none
  | ('[', _) :: ps => span? {} rest ps
  | p :: ps =>
    let isInTarget (p : Char × Char) := p.1 ≠ '=' && p.1 ≠ '['
    let target := taken ((p :: ps).takeWhile isInTarget)
    if !isFirst p.1 then none
    else
      match (p :: ps).dropWhile isInTarget with
      | [] =>
        match Level.ofChars? (target ++ rest) with
        | some l => some ⟨{}, l⟩
        | none => some ⟨{ target := .ofList (target ++ rest) }, .trace⟩
      | ('=', _) :: ps => withLevel? { target := .ofList target } (taken ps ++ rest)
      | _ :: ps => span? { target := .ofList target } rest ps

def ofString? (s : String) : Option Directive := ofChars? s.toList

end Directive
end LoxLex
