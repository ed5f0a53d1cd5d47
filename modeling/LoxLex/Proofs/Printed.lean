import LoxLex.Proofs.Listing
import LoxLex.Proofs.Literal
import LoxLex.Proofs.Shortest

/-!
# Printed numbers are read back

A number is printed with all its places, so its text is a numeral, and the numeral has the value of the decimal
that was chosen for the number. Every decimal that is chosen rounds to the number. Only an infinite number is
printed as a word.
-/

namespace LoxLex

open NumberStyle

/-! ## The text of a decimal -/

section
variable {ds es : List Char}

theorem Numeral.shiftIn_toDigits (n : Nat) : shiftIn 0 (Nat.toDigits 10 n) = n :=
  Nat.ofDigitChars_toDigits (by decide) (by decide)

theorem Numeral.shiftIn_zeros (n k : Nat) : shiftIn n (zeros k) = n * 10 ^ k := by
  induction k generalizing n with
  | zero => exact (Nat.mul_one n).symm
  | succ k ih =>
    have h : zeros (k + 1) = '0' :: zeros k := List.replicate_succ
    rw [h, shiftIn_cons, ih, Nat.sub_self, Nat.add_zero, pow_succ']
    ring

theorem isDigits_toDigits (n : Nat) : IsDigits (Nat.toDigits 10 n) :=
  ⟨Nat.toDigits_ne_nil, fun _ => Nat.isDigit_of_mem_toDigits (by decide) (by decide)⟩

theorem isDigit_of_mem_zeros {k : Nat} : ∀ d ∈ zeros k, d.isDigit = true := by
  intro d hd
  rw [List.eq_of_mem_replicate hd]
  rfl

theorem numeral_whole (hd : IsDigits ds) : Next .numeral ds [] ∧
    (Numeral.ofDigits ds).value = .ofRatio (Numeral.shiftIn 0 ds) 1 :=
  ⟨.whole hd stops_nil nofun, by rw [Numeral.ofDigits_digits hd]; rfl⟩

theorem numeral_pointed (hd : IsDigits ds) (he : IsDigits es) : Next .numeral (ds ++ '.' :: es) [] ∧
    (Numeral.ofDigits (ds ++ '.' :: es)).value =
      .ofRatio (Numeral.shiftIn 0 (ds ++ es)) (Nat.pow 10 es.length) :=
  ⟨.pointed hd he stops_nil, by rw [Numeral.ofDigits_pointed hd he]; rfl⟩

/-- All places of a decimal are a numeral with its value. -/
theorem numeral_positionalText (m : Decimal) : Next .numeral (plain.positionalText m) [] ∧
    (Numeral.ofDigits (plain.positionalText m)).value = m.value := by
  have hd := isDigits_toDigits m.digits
  have hn := Numeral.shiftIn_toDigits m.digits
  unfold positionalText Decimal.value
  generalize Nat.toDigits 10 m.digits = ds at hd hn
  dsimp only
  split
  · rename_i he
    obtain ⟨h₁, h₂⟩ := numeral_whole (isDigits_append hd (isDigit_of_mem_zeros (k := m.exponent.toNat)))
    have hp : (-m.exponent).toNat = 0 := by omega
    rw [Numeral.shiftIn_append, hn, Numeral.shiftIn_zeros] at h₂
    rw [hp]
    exact ⟨by simpa [plain] using h₁, by simpa [plain] using h₂⟩
  · rename_i he
    have hp : m.exponent.toNat = 0 := by omega
    rw [hp]
    have hz : m.digits * Nat.pow 10 0 = Numeral.shiftIn 0 ds := hn ▸ Nat.mul_one _
    have hpos : 0 < (-m.exponent).toNat := by omega
    rw [hz]
    generalize (-m.exponent).toNat = places at hpos
    split
    · -- the point stands among the digits
      have ht : IsDigits (ds.take (ds.length - places)) :=
        ⟨by simp [hd.1]; omega, fun d h => hd.2 d (List.mem_of_mem_take h)⟩
      have he : IsDigits (ds.drop (ds.length - places)) :=
        ⟨by simp; omega, fun d h => hd.2 d (List.mem_of_mem_drop h)⟩
      have hl : (ds.drop (ds.length - places)).length = places := by rw [List.length_drop]; omega
      have h := numeral_pointed ht he
      rwa [List.take_append_drop, hl] at h
    · -- the digits stand behind it, with zeros before them
      have ht : IsDigits ['0'] := ⟨nofun, List.forall_mem_singleton.mpr rfl⟩
      have he : IsDigits (zeros (places - ds.length) ++ ds) :=
        ⟨by simp [hd.1], fun d h => (List.mem_append.mp h).elim (isDigit_of_mem_zeros d) (hd.2 d)⟩
      have hl : (zeros (places - ds.length) ++ ds).length = places := by simp [zeros]; omega
      have hs : Numeral.shiftIn 0 (['0'] ++ (zeros (places - ds.length) ++ ds)) = Numeral.shiftIn 0 ds := by
        rw [List.singleton_append, Numeral.shiftIn_cons, Numeral.shiftIn_append, Numeral.shiftIn_zeros, Nat.sub_self,
          Nat.zero_mul]
      have h := numeral_pointed ht he
      rwa [hs, hl] at h

end

/-! ## The decimal of a number -/

namespace Binary64
variable {x : Binary64}

theorem eq_zero_of_isZero (hp : x.isNegative = false) (hz : x.isZero = true) : x = ⟨0⟩ :=
  eq_of_magnitude hp rfl (eq_of_beq hz)

theorem abs_of_plus (hp : x.isNegative = false) : x.abs = x := by
  rw [isNegative, decide_eq_false_iff_not, Nat.not_le] at hp
  rw [abs, magnitude, Nat.mod_eq_of_lt hp]
  exact congrArg mk UInt64.ofNat_toNat

theorem isNaN_of_isFinite (hf : x.IsFinite) : x.isNaN = false :=
  decide_eq_false (Nat.not_lt_of_lt ((isFinite_iff x).mp hf))

/-- The text of a finite number is all places of a decimal that rounds to it, and no other is preferred. -/
theorem exists_text (hp : x.isNegative = false) (hf : x.IsFinite) :
    ∃ m : Decimal, plain.text x = .ofList (plain.positionalText m) ∧ m.value = x ∧
      ∀ n : Decimal, n.value = x → m.Preferred x.toRat n := by
  have hi : x.isInfinite = false := by
    rw [isInfinite, beq_eq_false_iff_ne]
    exact ((isFinite_iff x).mp hf).ne
  have ht : plain.text x = .ofList (plain.magnitudeText x) := by
    rw [text, isNaN_of_isFinite hf, hp, abs_of_plus hp]
    rfl
  rw [ht, magnitudeText, hi, if_neg Bool.false_ne_true]
  cases hz : x.isZero with
  | true =>
    obtain rfl := eq_zero_of_isZero hp hz
    have hx : toRat ⟨0⟩ = 0 := (toRat_of_plus rfl).trans wordValue_zero
    exact ⟨⟨0, 0⟩, rfl, by decide, fun n _ => hx ▸ n.zero_preferred⟩
  | false =>
    have hz : 0 < x.magnitude := Nat.pos_of_ne_zero fun h => by rw [isZero, h] at hz; cases hz
    have hm := value_shortest hp hf hz
    have hn := @preferred_shortest x
    -- the search for the decimal is not to be run
    generalize x.shortest = m at hm hn ⊢
    exact ⟨m, rfl, hm, fun n h => hn hp hf hz h⟩

/-- What is not finite and neither negative nor without a value is infinity. -/
theorem eq_infinity (hp : x.isNegative = false) (hn : x.isNaN = false) (hf : ¬ x.IsFinite) : x = infinity := by
  refine eq_of_magnitude hp rfl ?_
  rw [isFinite_iff, Nat.not_lt] at hf
  exact Nat.le_antisymm (Nat.le_of_not_lt (of_decide_eq_false hn)) hf

end Binary64

/-! ## Reading it back -/

theorem items_numeral {p : List Char} (h : Next .numeral p []) : (Lexer.ofString (.ofList p)).items =
    [.token ⟨.number, .ofList p, some (.number (Numeral.ofDigits p).value), 1⟩, .token (.endOfFile 1)] := by
  have hc : Cut (p ++ []) [(.numeral, p)] := .cons h .nil
  have hn : p.count '\n' = 0 := List.count_eq_zero.mpr fun hm => by
    have := h.numeral_isBlank '\n' hm
    cases this
  rw [Lexer.items_ofString (by simpa using hc), itemsFrom_cons, hn]
  rfl

open Binary64 in
/-- **Printed numbers are read back** as the number they were printed for. The text is all places of the shortest
decimal that rounds to the number, and it is a numeral. Infinity is printed as a word, and read back as a name. -/
theorem lex_printed {σ : Type} [Sink σ] (source : String) (sink : σ) {t : Token} (ht : t ∈ (lex source sink).1)
    (hk : t.kind = .number) :
    ∃ x, t.literal = some (.number x) ∧
      (x.IsFinite →
        (∃ m : Decimal, (Literal.number x).text = .ofList (plain.positionalText m) ∧ m.value = x ∧
          ∀ n : Decimal, n.value = x → m.Preferred x.toRat n) ∧
        ∀ kept : σ, lex (Literal.number x).text kept =
          ([⟨.number, (Literal.number x).text, some (.number x), 1⟩, .endOfFile 1], kept)) ∧
      (¬ x.IsFinite → x = infinity ∧ (Literal.number x).text = "inf" ∧ ∀ kept : σ, lex "inf" kept =
        ([⟨.identifier, "inf", none, 1⟩, .endOfFile 1], kept)) := by
  obtain ⟨p, r, -, -, hl⟩ := exists_numeral (scanned_of_mem ht (by rw [hk]; exact nofun)) hk
  have hp : (Numeral.ofDigits p).value.isNegative = false := isNegative_ofRatio _ _
  have hv : (Numeral.ofDigits p).value.isNaN = false := isNaN_ofRatio _ _
  refine ⟨_, hl, fun hf => ?_, fun hf => ?_⟩
  · obtain ⟨m, ht, hm, hs⟩ := exists_text hp hf
    obtain ⟨hn, hr⟩ := numeral_positionalText m
    refine ⟨⟨m, ht, hm, hs⟩, fun kept => ?_⟩
    rw [Literal.text, ht, lex_eq, items_numeral hn, hr, hm]
    rfl
  · refine ⟨eq_infinity hp hv hf, ?_, fun kept => ?_⟩
    · rw [eq_infinity hp hv hf]
      decide
    · have hi : (Lexer.ofString "inf").items =
          [.token ⟨.identifier, "inf", none, 1⟩, .token (.endOfFile 1)] := by decide +kernel
      rw [lex_eq, hi]
      rfl

/-- Fewer digits than the source had, and the same number. -/
theorem lex_printed_tenth :
    ⟨.number, "00.1000000000000000055", some (.number ⟨0x3fb999999999999a⟩), 1⟩ ∈
        (lex "00.1000000000000000055" (#[] : Array Diagnostic)).1 ∧
      lex "0.1" (#[] : Array Diagnostic) =
        ([⟨.number, "0.1", some (.number ⟨0x3fb999999999999a⟩), 1⟩, .endOfFile 1], #[]) := by
  have ht : ⟨.number, "00.1000000000000000055", some (.number ⟨0x3fb999999999999a⟩), 1⟩ ∈
      (lex "00.1000000000000000055" (#[] : Array Diagnostic)).1 := List.mem_of_getElem? (i := 0) (by decide +kernel)
  have hp : (Literal.number ⟨0x3fb999999999999a⟩).text = "0.1" := by decide +kernel
  have hf : Binary64.IsFinite ⟨0x3fb999999999999a⟩ := (Binary64.isFinite_iff _).mpr (by decide)
  obtain ⟨x, hl, hx, -⟩ := lex_printed _ (#[] : Array Diagnostic) ht rfl
  obtain rfl := Literal.number.inj (Option.some.inj hl)
  exact ⟨ht, hp ▸ (hx hf).2 #[]⟩

end LoxLex
