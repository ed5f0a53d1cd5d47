import LoxLex.Number.Numeral

/-!
# Levels of the log

How much is logged, from nothing to everything. A record has a level too, and a limit admits the records of
its own level and of those before it.
-/

namespace LoxLex

inductive Level
  | off | error | warn | info | debug | trace
deriving DecidableEq

namespace Level

def all : List Level := [.off, .error, .warn, .info, .debug, .trace]

def name : Level → String
  | .off => "off"
  | .error => "error"
  | .warn => "warn"
  | .info => "info"
  | .debug => "debug"
  | .trace => "trace"

def rank : Level → Nat
  | .off => 0
  | .error => 1
  | .warn => 2
  | .info => 3
  | .debug => 4
  | .trace => 5

/-- A level is written by its name, in any case, or by its rank. -/
def ofChars? (cs : List Char) : Option Level :=
  match Numeral.whole? cs with
  | some n => all.find? fun l => l.rank = n
  | none => all.find? fun l => l.name.toList = cs.map Char.toLower

def admits (limit l : Level) : Bool := l.rank ≤ limit.rank

end Level
end LoxLex
