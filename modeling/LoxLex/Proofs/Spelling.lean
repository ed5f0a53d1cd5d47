import LoxLex.Proofs.Legible
import LoxLex.Proofs.Rounding

/-!
# Spellings

The characters of a piece tell its shape, wherever the piece was found, and the two make the token. So a
lexeme tells the kind and the value of a token, and with the line all of it. Values are compared as numbers,
which is as good as any comparison here, since no token has a value that differs from itself.
-/

namespace LoxLex

theorem Binary64.beq_self {x : Binary64} (h : x.isNaN = false) : (x == x) = true := by
  show (!x.isNaN && !x.isNaN && (x.bits == x.bits || (x.isZero && x.isZero))) = true
  simp [h]

section
variable {t u : Token}

/-! ## What a lexeme tells -/

theorem Delivered.kind_eq (ht : Delivered t) (hu : Delivered u) (h : t.lexeme = u.lexeme) : t.kind = u.kind := by
  have he : t.kind = .endOfFile ↔ u.kind = .endOfFile := by
    rw [← ht.form.lexeme_eq_empty_iff, ← hu.form.lexeme_eq_empty_iff, h]
  by_cases hk : t.kind = .endOfFile
  · rw [hk, he.mp hk]
  · obtain ⟨k, p, r, hn, hp, hi⟩ := exists_piece ⟨hk, ht⟩
    obtain ⟨k', p', r', hn', hp', hi'⟩ := exists_piece ⟨mt he.mpr hk, hu⟩
    obtain rfl : p = p' := by rw [← hp, ← hp', h]
    obtain rfl : k = k' := hn.shape_eq.symm.trans hn'.shape_eq
    have hi := Item.token.inj (Option.some.inj ((hi 0).symm.trans (hi' 0)))
    exact (Token.mk.inj hi).1

theorem Delivered.literal_eq (ht : Delivered t) (hu : Delivered u) (h : t.lexeme = u.lexeme) :
    t.literal = u.literal := by
  rw [ht.form.literal_eq, hu.form.literal_eq, ht.kind_eq hu h, h]

/-! ## Comparison -/

theorem Token.Form.number_beq_self (h : t.Form) {x : Binary64} (hx : t.literal = some (.number x)) :
    (x == x) = true := by
  cases h with
  | endOfFile | plain => cases hx
  | number =>
    obtain rfl := Literal.number.inj (Option.some.inj hx)
    exact Binary64.beq_self (Binary64.isNaN_ofRatio _ _)
  | string => cases hx

theorem Token.Form.literal_beq_self (h : t.Form) : (t.literal == t.literal) = true := by
  match hl : t.literal with
  | none => rfl
  | some (.number x) => exact h.number_beq_self hl
  | some (.string s) => exact beq_self_eq_true s

theorem Token.beq_iff : (t == u) = true ↔
    t.kind = u.kind ∧ t.lexeme = u.lexeme ∧ (t.literal == u.literal) = true ∧ t.line = u.line := by
  show (t.kind == u.kind && t.lexeme == u.lexeme && t.literal == u.literal && t.line == u.line) = true ↔ _
  simp [and_assoc]

theorem Delivered.beq_iff (ht : Delivered t) (hu : Delivered u) :
    (t == u) = true ↔ t.lexeme = u.lexeme ∧ t.line = u.line := by
  rw [Token.beq_iff]
  constructor
  · rintro ⟨-, hl, -, hn⟩
    exact ⟨hl, hn⟩
  · rintro ⟨hl, hn⟩
    refine ⟨ht.kind_eq hu hl, hl, ?_, hn⟩
    rw [← ht.literal_eq hu hl]
    exact ht.form.literal_beq_self

/-- The characters of a token and its line. -/
def Token.spelled (t : Token) : String × Nat := (t.lexeme, t.line)

theorem beq_iff_map_spelled {ts us : List Token} (ht : ∀ t ∈ ts, Delivered t) (hu : ∀ u ∈ us, Delivered u) :
    (ts == us) = true ↔ ts.map Token.spelled = us.map Token.spelled := by
  induction ts generalizing us with
  | nil => cases us <;> simp
  | cons t ts ih =>
    cases us with
    | nil => simp
    | cons u us =>
      obtain ⟨ht, hts⟩ := List.forall_mem_cons.mp ht
      obtain ⟨hu, hus⟩ := List.forall_mem_cons.mp hu
      rw [List.cons_beq_cons, Bool.and_eq_true, ht.beq_iff hu, ih hts hus]
      simp [Token.spelled]

end

/-- **Spellings.** Tokens of any two texts are equal just if they have the same lexeme on the same line. The lexeme
tells the kind and the value, it is empty at the end of a text only, and no number in a token differs from
itself. So two texts have equal tokens just if they spell the same lexemes on the same lines. -/
theorem beq_lex_iff {σ τ : Type} [Sink σ] [Sink τ] (s s' : String) (sink : σ) (sink' : τ) :
    (∀ t ∈ (lex s sink).1, ∀ u ∈ (lex s' sink').1,
      ((t == u) = true ↔ t.lexeme = u.lexeme ∧ t.line = u.line) ∧
      (t.lexeme = u.lexeme → t.kind = u.kind ∧ t.literal = u.literal)) ∧
    (∀ t ∈ (lex s sink).1, (t.kind = .endOfFile ↔ t.lexeme = "") ∧ (t == t) = true ∧
      ∀ x, t.literal = some (.number x) → (x == x) = true) ∧
    (((lex s sink).1 == (lex s' sink').1) = true ↔
      (lex s sink).1.map (fun t => (t.lexeme, t.line)) = (lex s' sink').1.map fun u => (u.lexeme, u.line)) := by
  have ht : ∀ t ∈ (lex s sink).1, Delivered t := fun t h => ⟨s, mem_lex_of_mem h⟩
  have hu : ∀ u ∈ (lex s' sink').1, Delivered u := fun u h => ⟨s', mem_lex_of_mem h⟩
  refine ⟨?_, ?_, beq_iff_map_spelled ht hu⟩
  · intro t h u h'
    exact ⟨(ht t h).beq_iff (hu u h'), fun hl => ⟨(ht t h).kind_eq (hu u h') hl, (ht t h).literal_eq (hu u h') hl⟩⟩
  · intro t h
    refine ⟨(ht t h).form.lexeme_eq_empty_iff.symm, ((ht t h).beq_iff (ht t h)).mpr ⟨rfl, rfl⟩, ?_⟩
    intro x hx
    exact (ht t h).form.number_beq_self hx

/-- One value in two spellings makes two tokens. A word is the same behind a blank and behind a number. -/
theorem beq_lex_iff_one_and :
    ((⟨.number, "1", some (.number ⟨0x3ff0000000000000⟩), 1⟩ : Token) ==
      ⟨.number, "1.0", some (.number ⟨0x3ff0000000000000⟩), 1⟩) = false ∧
    ((lex "1and" (#[] : Array Diagnostic)).1 == (lex "1 and//" (#[] : Array Diagnostic)).1) = true := by
  have h₁ : (⟨.number, "1", some (.number ⟨0x3ff0000000000000⟩), 1⟩ : Token) ∈
      (lex "1and" (#[] : Array Diagnostic)).1 := List.mem_of_getElem? (i := 0) (by decide +kernel)
  have h₂ : (⟨.number, "1.0", some (.number ⟨0x3ff0000000000000⟩), 1⟩ : Token) ∈
      (lex "1.0" (#[] : Array Diagnostic)).1 := List.mem_of_getElem? (i := 0) (by decide +kernel)
  constructor
  · rw [Bool.eq_false_iff, ne_eq, ((beq_lex_iff _ _ #[] #[]).1 _ h₁ _ h₂).1]
    decide
  · exact (beq_lex_iff _ _ #[] #[]).2.2.mpr (by decide +kernel)

end LoxLex
