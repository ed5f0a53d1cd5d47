import LoxLex.Command.Log.Directive
import LoxLex.Command.Log.Record

/-!
# Filters of the log

A filter is a list of directives. A record is admitted for one of two reasons. Among the directives that name
neither a span nor a value, the one that fits the record best decides on it. And a directive that names a
span or a field of one admits what is logged within the spans that it fits.
-/

namespace LoxLex
namespace Subject

def hasTarget (s : Subject) (target : String) : Bool := s.target.toList.isPrefixOf target.toList

def hasField (s : Subject) (names : List String) : Bool := s.field.all fun f => names.contains f.name

def namesSpan (s : Subject) : Bool := s.span.isSome || s.field.isSome

/-- Whether single records are decided on: no span is named and no value. -/
def isGeneral (s : Subject) : Bool := s.span.isNone && s.field.all (·.value = .any)

def coversRecord (s : Subject) (r : LogRecord) : Bool :=
  s.isGeneral && s.hasTarget r.target && s.hasField r.fieldNames

def coversSpans (s : Subject) : Bool :=
  s.namesSpan && s.hasTarget Span.target && s.span.all (· = Span.name) && s.hasField [Span.fieldName]

def coversSpan (s : Subject) (span : Span) : Bool :=
  s.coversSpans && s.field.all (·.value.accepts span.bytes)

/-- Whether `t` fits at least as closely as `s`, both being general: a longer target fits more closely, then
one with a field. Two fields are told apart by their names. -/
def yieldsTo (s t : Subject) : Bool :=
  s.target.length < t.target.length ||
    (s.target.length = t.target.length &&
      match s.field, t.field with
      | none, _ => true
      | some _, none => false
      | some f, some g => f.name ≤ g.name)

end Subject

structure Filter where
  directives : List Directive
deriving DecidableEq

namespace Filter

def ofLevel (l : Level) : Filter := ⟨[⟨{}, l⟩]⟩

/-- Of several directives with one subject the last stands. -/
def standing : List Directive → List Directive
  | [] => []
  | d :: ds => if ds.any (·.subject = d.subject) then standing ds else d :: standing ds

/-- Directives are separated by commas. Without any, only errors are admitted. -/
def ofString? (s : String) : Option Filter := do
  let parts := (s.splitOn ",").filter (· ≠ "")
  if parts.isEmpty then some (ofLevel .error)
  else some ⟨standing (← parts.mapM Directive.ofString?)⟩

/-- The level of the directive that fits most closely; without one nothing is admitted. -/
def closest : List Directive → Level
  | [] => .off
  | d :: ds => (ds.foldl (fun d e => if d.subject.yieldsTo e.subject then e else d) d).level

def levelFor (f : Filter) (r : LogRecord) : Level :=
  closest (f.directives.filter (·.subject.coversRecord r))

def admitsWithin (f : Filter) (span : Span) (l : Level) : Bool :=
  f.directives.any fun d => d.subject.coversSpan span && d.level.admits l

/-- Whether the spans of lexing are followed. For a directive that decides on single records the target of
the span counts, but not its fields. -/
def followsSpans (f : Filter) : Bool :=
  f.directives.any (·.subject.coversSpans) ||
    (closest (f.directives.filter fun d => d.subject.isGeneral && d.subject.hasTarget Span.target)).admits
      Span.level

def admits (f : Filter) (r : LogRecord) : Bool :=
  (f.levelFor r).admits r.level || r.span?.any (f.admitsWithin · r.level)

def line? (f : Filter) (r : LogRecord) : Option LogLine :=
  if f.admits r then some ⟨r, f.followsSpans⟩ else none

end Filter
end LoxLex
