import LoxLex.Proofs.Relex
import LoxLex.Proofs.Rounding
import Mathlib.Data.Nat.Digits.Defs

/-!
# The values of numerals

The value of a numeral is a quotient of two whole numbers, of any size. The number that a token carries is
this quotient, rounded once.
-/

namespace LoxLex

/-- The number that a run of digits stands for. -/
def digitsValue (ds : List Char) : Nat := Nat.ofDigits 10 (ds.reverse.map fun d => d.toNat - '0'.toNat)

/-- The number that the digits `ds`, a point and the digits `es` stand for. -/
def decimalValue (ds es : List Char) : ℚ := digitsValue ds + digitsValue es / 10 ^ es.length

section
variable {ds es p r : List Char}

theorem Numeral.shiftIn_eq (n : Nat) (ds : List Char) :
    shiftIn n ds = n * 10 ^ ds.length + digitsValue ds := by
  induction ds generalizing n with
  | nil => simp [digitsValue]
  | cons d ds ih =>
    rw [shiftIn_cons, ih, digitsValue, digitsValue, List.reverse_cons, List.map_append, Nat.ofDigits_append,
      List.length_map, List.length_reverse, List.map_singleton, Nat.ofDigits_singleton, List.length_cons, pow_succ]
    ring

theorem Numeral.shiftIn_zero_append (ds es : List Char) :
    shiftIn 0 (ds ++ es) = digitsValue ds * 10 ^ es.length + digitsValue es := by
  rw [shiftIn_append, shiftIn_eq, shiftIn_eq 0, Nat.zero_mul, Nat.zero_add]

theorem decimalValue_eq (ds es : List Char) :
    decimalValue ds es = (Numeral.shiftIn 0 (ds ++ es) : ℚ) / (Nat.pow 10 es.length : Nat) := by
  have hp : (10 : ℚ) ^ es.length ≠ 0 := pow_ne_zero _ (by decide)
  rw [decimalValue, Numeral.shiftIn_zero_append, Nat.pow_eq]
  push_cast
  field_simp

theorem Next.exists_digits (h : Next .numeral p r) : ∃ ds es, IsDigits ds ∧
    (p = ds ∧ es = [] ∨ IsDigits es ∧ p = ds ++ '.' :: es) ∧
      Numeral.parse? p = some (.ofDigits p) ∧
      Numeral.ofDigits p = ⟨Numeral.shiftIn 0 (ds ++ es), es.length⟩ := by
  cases h with
  | whole hd =>
    refine ⟨_, [], hd, .inl ⟨rfl, rfl⟩, Numeral.parse?_digits hd, ?_⟩
    rw [Numeral.ofDigits_digits hd, List.append_nil]
    rfl
  | pointed hd he =>
    exact ⟨_, _, hd, .inr ⟨he, rfl⟩, Numeral.parse?_pointed hd he, Numeral.ofDigits_pointed hd he⟩

end

/-! ## Tokens of numerals -/

theorem Shape.eq_numeral {k : Shape} {line : Nat} {p : List Char} {t : Token}
    (h : k.item? line p = some (.token t)) (ht : t.kind = .number) : k = .numeral := by
  cases k with
  | numeral => rfl
  | word =>
    obtain rfl := Item.token.inj (Option.some.inj h)
    simp only [Kind.ofSpelling?] at ht
    cases hs : Keyword.ofSpelling? (.ofList p) <;> rw [hs] at ht <;> cases ht
  | blank | comment | openString | stray => cases h
  | mark | string =>
    obtain rfl := Item.token.inj (Option.some.inj h)
    cases ht

theorem exists_numeral {t : Token} (h : Scanned t) (ht : t.kind = .number) :
    ∃ p r, Next .numeral p r ∧ t.lexeme.toList = p ∧ t.literal = some (.number (Numeral.ofDigits p).value) := by
  obtain ⟨k, p, r, hn, hp, hi⟩ := exists_piece h
  obtain rfl := Shape.eq_numeral (hi 0) ht
  exact ⟨p, r, hn, hp, (congrArg Token.literal (Item.token.inj (Option.some.inj (hi 0)))).symm⟩

open Binary64

/-- **The value of a numeral is rounded once**, to the nearest number, and halfway to the even one. It is zero up
to half the least positive number, and infinite from half a place beyond the largest number on. -/
theorem lex_number {σ : Type} [Sink σ] (source : String) (sink : σ) {t : Token} (ht : t ∈ (lex source sink).1)
    (hk : t.kind = .number) :
    ∃ ds es v, IsDigits ds ∧
      (t.lexeme.toList = ds ∧ es = [] ∨ IsDigits es ∧ t.lexeme.toList = ds ++ '.' :: es) ∧
      Numeral.parse? t.lexeme.toList = some v ∧ t.literal = some (.number v.value) ∧
      (∀ x, Rounds (decimalValue ds es) x ↔ x = v.value) ∧
      (v.value = ⟨0⟩ ↔ decimalValue ds es ≤ 1 / 2 ^ 1075) ∧
      (v.value = infinity ↔ 2 ^ 1024 - 2 ^ 970 ≤ decimalValue ds es) ∧
      v.value.isNaN = false ∧ v.value.isNegative = false := by
  obtain ⟨p, r, hn, rfl, hl⟩ := exists_numeral (scanned_of_mem ht (by rw [hk]; exact nofun)) hk
  obtain ⟨ds, es, hd, hp, hv, he⟩ := hn.exists_digits
  have hten : 0 < Nat.pow 10 es.length := Nat.pow_pos (by decide)
  refine ⟨ds, es, _, hd, hp, hv, hl, ?_⟩
  rw [he, decimalValue_eq]
  exact ⟨fun x => ⟨fun h => h.unique (rounds_ofRatio hten), fun h => h ▸ rounds_ofRatio hten⟩,
    ofRatio_eq_zero_iff hten, ofRatio_eq_infinity_iff hten, isNaN_ofRatio _ _, isNegative_ofRatio _ _⟩

/-- Halfway between two numbers, to the even one. A sign in front is a token of its own. -/
theorem lex_number_halfway :
    ⟨.number, "9007199254740993", some (.number ⟨0x4340000000000000⟩), 1⟩ ∈
        (lex "-9007199254740993" (#[] : Array Diagnostic)).1 ∧
      Rounds 9007199254740993 ⟨0x4340000000000000⟩ := by
  have ht : ⟨.number, "9007199254740993", some (.number ⟨0x4340000000000000⟩), 1⟩ ∈
      (lex "-9007199254740993" (#[] : Array Diagnostic)).1 := List.mem_of_getElem? (i := 1) (by decide +kernel)
  obtain ⟨ds, es, v, -, hp, -, hl, hr, -⟩ := lex_number "-9007199254740993" (#[] : Array Diagnostic) ht rfl
  have hv : decimalValue ds es = 9007199254740993 := by
    rcases hp with ⟨rfl, rfl⟩ | ⟨-, hp⟩
    · have hd : digitsValue "9007199254740993".toList = 9007199254740993 ∧ digitsValue [] = 0 := by decide +kernel
      rw [decimalValue, hd.1, hd.2]
      norm_num
    · have hc : '.' ∈ "9007199254740993".toList := by simp [hp]
      exact absurd hc (by decide)
  refine ⟨ht, ?_⟩
  rw [← hv]
  exact (hr _).mpr (Literal.number.inj (Option.some.inj hl))

end LoxLex
