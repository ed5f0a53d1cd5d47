import LoxLex.Lexer.Harvest
import LoxLex.Proofs.Cut

/-!
# A harvest is the stream sorted

Reading a text to its end gathers the tokens of the stream, in their order, and the sink has received its
diagnostics, in theirs. The sink has no say in either. The events tell of the same diagnostics, and the last of
them counts what was read.
-/

namespace LoxLex

def Item.token? : Item → Option Token
  | .token t => some t
  | .diagnostic _ => none

def Item.diagnostic? : Item → Option Diagnostic
  | .token _ => none
  | .diagnostic d => some d

def tokensOf (is : List Item) : List Token := is.filterMap Item.token?

def diagnosticsOf (is : List Item) : List Diagnostic := is.filterMap Item.diagnostic?

@[simp] theorem tokensOf_nil : tokensOf [] = [] := rfl

@[simp] theorem tokensOf_token (t : Token) (is : List Item) : tokensOf (.token t :: is) = t :: tokensOf is := rfl

@[simp] theorem tokensOf_diagnostic (d : Diagnostic) (is : List Item) :
    tokensOf (.diagnostic d :: is) = tokensOf is := rfl

@[simp] theorem tokensOf_append (is js : List Item) : tokensOf (is ++ js) = tokensOf is ++ tokensOf js :=
  List.filterMap_append

@[simp] theorem diagnosticsOf_nil : diagnosticsOf [] = [] := rfl

@[simp] theorem diagnosticsOf_token (t : Token) (is : List Item) :
    diagnosticsOf (.token t :: is) = diagnosticsOf is := rfl

@[simp] theorem diagnosticsOf_diagnostic (d : Diagnostic) (is : List Item) :
    diagnosticsOf (.diagnostic d :: is) = d :: diagnosticsOf is := rfl

@[simp] theorem diagnosticsOf_append (is js : List Item) :
    diagnosticsOf (is ++ js) = diagnosticsOf is ++ diagnosticsOf js :=
  List.filterMap_append

section
variable {σ : Type} [Sink σ]

def Diagnostic.event (bytes : Nat) (d : Diagnostic) : LexEvent := .lexicalError bytes d.line d.fault

/-- What has been gathered when the items `is` have been added. -/
theorem foldl_add (bytes : Nat) (is : List Item) (h : Harvest σ) :
    is.foldl (Harvest.add bytes) h =
      { tokens := h.tokens ++ tokensOf is
        errors := h.errors + (diagnosticsOf is).length
        sink := (diagnosticsOf is).foldl Sink.receive h.sink
        events := h.events ++ (diagnosticsOf is).map (·.event bytes) } := by
  induction is generalizing h with
  | nil => simp
  | cons i is ih =>
    rw [List.foldl_cons, ih]
    cases i with
    | token t => simp [Harvest.add]
    | diagnostic d => simp [Harvest.add, Diagnostic.event, Nat.add_assoc, Nat.add_comm 1]

theorem Lexer.harvest_eq (l : Lexer) (sink : σ) :
    l.harvest sink =
      { tokens := (tokensOf l.items).toArray
        errors := (diagnosticsOf l.items).length
        sink := (diagnosticsOf l.items).foldl Sink.receive sink
        events := ((diagnosticsOf l.items).map (·.event l.source.utf8ByteSize)).toArray.push
          (.finished l.source.utf8ByteSize (tokensOf l.items).length (diagnosticsOf l.items).length) } := by
  rw [Lexer.harvest, fold_eq_foldl_items, foldl_add]
  simp [Harvest.finish, Harvest.empty]

theorem lex_eq (source : String) (sink : σ) :
    lex source sink = (tokensOf (Lexer.ofString source).items,
      (diagnosticsOf (Lexer.ofString source).items).foldl Sink.receive sink) := by
  rw [lex, Lexer.harvest_eq]

end

theorem toList_foldl_receive (ds : List Diagnostic) (kept : Array Diagnostic) :
    (ds.foldl Sink.receive kept).toList = kept.toList ++ ds := by
  induction ds generalizing kept with
  | nil => simp
  | cons d ds ih =>
    rw [List.foldl_cons, ih]
    simp [Sink.receive]

end LoxLex
