import LoxLex.Number.Binary64
import Mathlib.Algebra.Order.Field.Rat
import Mathlib.Data.Nat.Log
import Mathlib.Order.Monotone.Basic
import Mathlib.Tactic.FieldSimp
import Mathlib.Tactic.Linarith
import Mathlib.Tactic.NormNum
import Mathlib.Tactic.Positivity
import Mathlib.Tactic.Ring

/-!
# Rounding to double precision

Without their sign, words are ordered as the magnitudes they stand for. Rounding goes up from a word to the
next exactly when the middle between the two lies below the quotient, or is the quotient and the word is
odd. So the word it ends at is the nearest one, and the even one of two.
-/

namespace LoxLex
namespace Binary64

/-! ## Words without sign -/

/-- The units that a word without sign stands for. Beyond the finite numbers the pattern goes on. -/
def wordUnits (b : Nat) : Nat :=
  if b / hiddenBit = 0 then b % hiddenBit else (hiddenBit + b % hiddenBit) <<< (b / hiddenBit - 1)

theorem wordUnits_add {m s : Nat} (hm : m ≤ 2 * hiddenBit) (hs : m < hiddenBit → s = 0) :
    wordUnits (m + s * hiddenBit) = m * 2 ^ s := by
  unfold wordUnits
  rcases Nat.lt_or_ge m hiddenBit with h | h
  · obtain rfl := hs h
    rw [Nat.zero_mul, Nat.add_zero, if_pos (Nat.div_eq_of_lt h), Nat.mod_eq_of_lt h, pow_zero, Nat.mul_one]
  rcases Nat.lt_or_eq_of_le hm with hm | rfl
  · have hd : (m + s * hiddenBit) / hiddenBit = s + 1 := by unfold hiddenBit at *; omega
    have hr : hiddenBit + (m + s * hiddenBit) % hiddenBit = m := by unfold hiddenBit at *; omega
    rw [hd, hr, if_neg (Nat.succ_ne_zero s), Nat.shiftLeft_eq, Nat.add_sub_cancel]
  · have hd : (2 * hiddenBit + s * hiddenBit) / hiddenBit = s + 2 := by unfold hiddenBit; omega
    have hr : (2 * hiddenBit + s * hiddenBit) % hiddenBit = 0 := by unfold hiddenBit; omega
    rw [hd, hr, if_neg (Nat.succ_ne_zero _), Nat.shiftLeft_eq, Nat.add_zero, Nat.add_sub_assoc (by decide),
      pow_succ]
    ring

theorem exists_word (b : Nat) :
    ∃ m s, b = m + s * hiddenBit ∧ m < 2 * hiddenBit ∧ (m < hiddenBit → s = 0) := by
  rcases Nat.lt_or_ge b hiddenBit with h | h
  · exact ⟨b, 0, by omega, by omega, fun _ => rfl⟩
  · refine ⟨hiddenBit + b % hiddenBit, b / hiddenBit - 1, ?_, ?_, ?_⟩ <;> unfold hiddenBit at * <;> omega

theorem wordUnits_strictMono : StrictMono wordUnits := by
  refine strictMono_nat_of_lt_succ fun b => ?_
  obtain ⟨m, s, rfl, hm, hs⟩ := exists_word b
  have hb : m + s * hiddenBit + 1 = m + 1 + s * hiddenBit := by omega
  rw [hb, wordUnits_add hm.le hs, wordUnits_add hm fun h => hs (by omega)]
  exact Nat.mul_lt_mul_of_pos_right (Nat.lt_succ_self m) (Nat.two_pow_pos s)

/-! ## Rounding to a word -/

def roundWord (n d : Nat) : Nat :=
  let shift := (n / d).log2 - 52
  roundDiv n (d <<< shift) + shift * hiddenBit

theorem roundUnits_eq (n d : Nat) : roundUnits n d = min (roundWord n d) infinity.magnitude := rfl

/-- Twice the middle between the magnitudes of a word and the next. -/
def twiceMiddle (b : Nat) : Nat := wordUnits b + wordUnits (b + 1)

section
variable {n d : Nat}

/-- The shift leaves 53 bits of the quotient, or all if it has fewer. -/
theorem shifted_bounds (u : Nat) :
    u / 2 ^ (u.log2 - 52) < 2 * hiddenBit ∧ (u / 2 ^ (u.log2 - 52) < hiddenBit → u.log2 - 52 = 0) := by
  have hb : 2 * hiddenBit = 2 ^ 53 ∧ hiddenBit = 2 ^ 52 := by decide
  constructor
  · rw [Nat.div_lt_iff_lt_mul (Nat.two_pow_pos _), hb.1, ← pow_add]
    exact lt_of_lt_of_le Nat.lt_log2_self (Nat.pow_le_pow_right (by decide) (by omega))
  · intro h
    by_contra hs
    have hu : u ≠ 0 := by
      rintro rfl
      exact hs (by decide)
    rw [Nat.div_lt_iff_lt_mul (Nat.two_pow_pos _), hb.2, ← pow_add] at h
    have he : 52 + (u.log2 - 52) = u.log2 := by omega
    rw [he] at h
    exact absurd (Nat.log2_self_le hu) (by omega)

/-- Between the words around the quotient, the middle decides. -/
theorem exists_floor (hd : 0 < d) : ∃ b, wordUnits b * d ≤ n ∧ n < wordUnits (b + 1) * d ∧
    (roundWord n d = b ∧ (2 * n < twiceMiddle b * d ∨ 2 * n = twiceMiddle b * d ∧ b % 2 = 0) ∨
      roundWord n d = b + 1 ∧ (twiceMiddle b * d < 2 * n ∨ twiceMiddle b * d = 2 * n ∧ b % 2 = 1)) := by
  obtain ⟨h₁, h₂⟩ := shifted_bounds (n / d)
  unfold twiceMiddle roundWord roundDiv
  generalize hs : (n / d).log2 - 52 = s at h₁ h₂ ⊢
  rw [Nat.div_div_eq_div_mul] at h₁ h₂
  simp only [Nat.shiftLeft_eq]
  -- `D` weighs the last bit that is kept, and `k` are the bits
  generalize hD : d * 2 ^ s = D at h₁ h₂ ⊢
  have hp : 0 < D := hD ▸ Nat.mul_pos hd (Nat.two_pow_pos s)
  have hn := Nat.div_add_mod n D
  have hr := Nat.mod_lt n hp
  generalize n / D = k at h₁ h₂ hn ⊢
  generalize n % D = r at hn hr ⊢
  have hlo : wordUnits (k + s * hiddenBit) * d = D * k := by
    rw [wordUnits_add h₁.le h₂, ← hD]
    ring
  have hhi : wordUnits (k + s * hiddenBit + 1) * d = D * k + D := by
    have hb : k + s * hiddenBit + 1 = k + 1 + s * hiddenBit := by omega
    rw [hb, wordUnits_add (m := k + 1) h₁ fun h => h₂ (by omega), ← hD]
    ring
  have he : (k + s * hiddenBit) % 2 = k % 2 := by unfold hiddenBit; omega
  refine ⟨k + s * hiddenBit, ?_⟩
  rw [Nat.add_mul, hlo, hhi, he]
  split <;> omega

theorem lt_roundWord_iff (hd : 0 < d) (c : Nat) : c < roundWord n d ↔
    twiceMiddle c * d < 2 * n ∨ twiceMiddle c * d = 2 * n ∧ c % 2 = 1 := by
  obtain ⟨b, hlo, hhi, hr⟩ := exists_floor (n := n) hd
  rcases Nat.lt_trichotomy c b with h | rfl | h
  · have h₁ : wordUnits c < wordUnits b := wordUnits_strictMono h
    have h₂ : wordUnits (c + 1) ≤ wordUnits b := wordUnits_strictMono.monotone h
    have h₃ : twiceMiddle c * d < (2 * wordUnits b) * d :=
      Nat.mul_lt_mul_of_pos_right (by unfold twiceMiddle; omega) hd
    rw [Nat.mul_assoc] at h₃
    omega
  · omega
  · have h₁ : wordUnits (b + 1) ≤ wordUnits c := wordUnits_strictMono.monotone h
    have h₂ : wordUnits c < wordUnits (c + 1) := wordUnits_strictMono (Nat.lt_succ_self c)
    have h₃ : (2 * wordUnits (b + 1)) * d < twiceMiddle c * d :=
      Nat.mul_lt_mul_of_pos_right (by unfold twiceMiddle; omega) hd
    rw [Nat.mul_assoc] at h₃
    omega

end

/-! ## What a number stands for -/

def exponent (x : Binary64) : Nat := x.bits.toNat / 2 ^ 52 % 2 ^ 11

def fraction (x : Binary64) : Nat := x.bits.toNat % 2 ^ 52

def IsFinite (x : Binary64) : Prop := x.exponent < 2047

/-- What the fields of a finite number without its sign say. -/
def absRat (x : Binary64) : ℚ :=
  if x.exponent = 0 then x.fraction / 2 ^ 1074 else (2 ^ 52 + x.fraction) * 2 ^ x.exponent / 2 ^ 1075

def toRat (x : Binary64) : ℚ := if x.isNegative then -x.absRat else x.absRat

def wordValue (b : Nat) : ℚ := wordUnits b / 2 ^ 1074

def middle (b : Nat) : ℚ := (wordValue b + wordValue (b + 1)) / 2

theorem exponent_eq (x : Binary64) : x.exponent = x.magnitude / hiddenBit := by
  unfold exponent magnitude hiddenBit signBit
  omega

theorem fraction_eq (x : Binary64) : x.fraction = x.magnitude % hiddenBit := by
  unfold fraction magnitude hiddenBit signBit
  omega

theorem fraction_mod_two (x : Binary64) : x.fraction % 2 = x.magnitude % 2 := by
  rw [fraction_eq]
  unfold hiddenBit
  omega

theorem magnitude_infinity : infinity.magnitude = 2047 * hiddenBit := by decide

theorem isFinite_iff (x : Binary64) : x.IsFinite ↔ x.magnitude < infinity.magnitude := by
  rw [IsFinite, exponent_eq, magnitude_infinity]
  unfold hiddenBit
  omega

theorem absRat_eq_units (x : Binary64) : x.absRat = x.units / 2 ^ 1074 := by
  rw [absRat, units, exponent_eq, fraction_eq]
  split
  · rfl
  · rename_i he
    obtain ⟨k, hk⟩ := Nat.exists_eq_succ_of_ne_zero he
    have hb : (2 : ℚ) ^ 52 = hiddenBit := by norm_num [hiddenBit]
    rw [hk, hb, Nat.shiftLeft_eq, Nat.succ_eq_add_one, Nat.add_sub_cancel, pow_succ, pow_succ _ 1074, ← mul_assoc,
      mul_div_mul_right _ _ two_ne_zero]
    push_cast
    rfl

theorem absRat_eq (x : Binary64) : x.absRat = wordValue x.magnitude := x.absRat_eq_units

theorem wordValue_strictMono : StrictMono wordValue := fun a b h => by
  have hu : (wordUnits a : ℚ) < wordUnits b := Nat.cast_lt.mpr (wordUnits_strictMono h)
  exact div_lt_div_of_pos_right hu (pow_pos two_pos _)

theorem wordValue_add {m s : Nat} (hm : m ≤ 2 * hiddenBit) (hs : m < hiddenBit → s = 0) :
    wordValue (m + s * hiddenBit) = m * (2 ^ s / 2 ^ 1074) := by
  rw [wordValue, wordUnits_add hm hs, Nat.cast_mul, Nat.cast_pow, Nat.cast_ofNat, mul_div_assoc]

theorem wordValue_zero : wordValue 0 = 0 := by
  rw [wordValue, show wordUnits 0 = 0 from rfl, Nat.cast_zero, zero_div]

theorem toRat_of_plus {x : Binary64} (h : x.isNegative = false) : x.toRat = wordValue x.magnitude := by
  rw [toRat, h, absRat_eq]
  rfl

theorem eq_of_magnitude {x y : Binary64} (hx : x.isNegative = false) (hy : y.isNegative = false)
    (h : x.magnitude = y.magnitude) : x = y := by
  unfold isNegative at hx hy
  unfold magnitude at h
  rw [decide_eq_false_iff_not, Nat.not_le] at hx hy
  rw [Nat.mod_eq_of_lt hx, Nat.mod_eq_of_lt hy] at h
  exact congrArg mk (UInt64.toNat_inj.mp h)

theorem exists_magnitude {b : Nat} (h : b < signBit) :
    ∃ x : Binary64, x.isNegative = false ∧ x.magnitude = b := by
  have hb : (UInt64.ofNat b).toNat = b := UInt64.toNat_ofNat_of_lt' (Nat.lt_trans h (by decide))
  refine ⟨⟨UInt64.ofNat b⟩, ?_, ?_⟩
  · rw [isNegative, hb, decide_eq_false_iff_not]
    exact Nat.not_le_of_lt h
  · rw [magnitude, hb, Nat.mod_eq_of_lt h]

/-! ## Rounding to nearest -/

/-- The finite number that is nearest to `q`, with an even fraction if another one is as near. -/
structure Nearest (q : ℚ) (x : Binary64) : Prop where
  finite : x.IsFinite
  plus : x.isNegative = false
  nearest {y : Binary64} : y.IsFinite → |q - x.toRat| ≤ |q - y.toRat|
  even {y : Binary64} : y.IsFinite → |q - y.toRat| = |q - x.toRat| → y.toRat = x.toRat ∨ x.fraction % 2 = 0

/-- The number that `q`, which is not negative, is rounded to. -/
inductive Rounds (q : ℚ) : Binary64 → Prop
  | nearest {x} : q < 2 ^ 1024 - 2 ^ 970 → Nearest q x → Rounds q x
  | overflow : 2 ^ 1024 - 2 ^ 970 ≤ q → Rounds q infinity

section
variable {q x y : ℚ}

theorem abs_sub_le_iff_mul_nonneg : |q - y| ≤ |q - x| ↔ 0 ≤ (y - x) * (2 * q - (x + y)) := by
  rw [← sq_le_sq, ← sub_nonneg]
  ring_nf

theorem add_eq_of_abs_sub_eq (hn : x ≠ y) (h : |q - x| = |q - y|) : x + y = 2 * q := by
  rcases abs_eq_abs.mp h with h | h
  · exact absurd (by linarith) hn
  · linarith

end

section
variable {q : ℚ} {b : Nat}

/-- Which middles between words lie below `q` tells the word that is nearest to `q`. -/
theorem wordValue_nearest (h : ∀ c, c < b ↔ middle c < q ∨ middle c = q ∧ c % 2 = 1) (c : Nat) :
    |q - wordValue b| ≤ |q - wordValue c| ∧
      (|q - wordValue c| = |q - wordValue b| → c = b ∨ b % 2 = 0) := by
  rw [abs_sub_le_iff_mul_nonneg]
  unfold middle at h
  rcases Nat.lt_trichotomy c b with hc | rfl | hc
  · obtain ⟨a, rfl⟩ := Nat.exists_eq_add_one_of_ne_zero (Nat.ne_zero_of_lt hc)
    have ha := (h a).mp (Nat.lt_succ_self a)
    have hm : wordValue c ≤ wordValue a := wordValue_strictMono.monotone (Nat.le_of_lt_succ hc)
    have hl : wordValue c < wordValue (a + 1) := wordValue_strictMono hc
    refine ⟨mul_nonneg (by linarith) ?_, fun he => .inr ?_⟩
    · rcases ha with ha | ha <;> linarith
    · have hq := add_eq_of_abs_sub_eq hl.ne he
      rcases ha with ha | ha
      · linarith
      · omega
  · exact ⟨by rw [sub_self, zero_mul], fun _ => .inl rfl⟩
  · have hb := mt (h b).mpr (Nat.lt_irrefl b)
    push Not at hb
    have hm : wordValue (b + 1) ≤ wordValue c := wordValue_strictMono.monotone hc
    have hl : wordValue b < wordValue c := wordValue_strictMono hc
    refine ⟨mul_nonneg_of_nonpos_of_nonpos (by linarith) (by linarith), fun he => .inr ?_⟩
    have hq := add_eq_of_abs_sub_eq hl.ne' he
    have := hb.2 (by linarith)
    omega

/-- A number with the sign is no nearer than zero. -/
theorem abs_le_abs_sub_toRat {y : Binary64} (hq : 0 ≤ q) (hy : y.isNegative = true) :
    |q| ≤ |q - y.toRat| ∧ (|q - y.toRat| = |q| → y.toRat = 0) := by
  have hv : y.toRat = -wordValue y.magnitude := by rw [toRat, if_pos hy, absRat_eq]
  have h₀ : 0 ≤ wordValue y.magnitude := wordValue_zero ▸ wordValue_strictMono.monotone (Nat.zero_le _)
  have h₁ : 0 ≤ q - y.toRat := by linarith
  rw [abs_of_nonneg hq, abs_of_nonneg h₁]
  exact ⟨by linarith, fun h => by linarith⟩

theorem toRat_nearest (hq : 0 ≤ q) (h : ∀ c, c < b ↔ middle c < q ∨ middle c = q ∧ c % 2 = 1) (y : Binary64) :
    |q - wordValue b| ≤ |q - y.toRat| ∧
      (|q - y.toRat| = |q - wordValue b| → y.toRat = wordValue b ∨ b % 2 = 0) := by
  cases hy : y.isNegative with
  | false =>
    obtain ⟨hn, he⟩ := wordValue_nearest h y.magnitude
    rw [toRat_of_plus hy]
    exact ⟨hn, fun e => (he e).imp_left (congrArg wordValue)⟩
  | true =>
    obtain ⟨hn, he⟩ := wordValue_nearest h 0
    obtain ⟨hm, hz⟩ := abs_le_abs_sub_toRat hq hy
    rw [wordValue_zero, sub_zero] at hn he
    refine ⟨hn.trans hm, fun e => ?_⟩
    have hq₀ : |q| = |q - wordValue b| := le_antisymm (e ▸ hm) hn
    refine (he hq₀).imp_left fun hb => ?_
    rw [hz (e.trans hq₀.symm), ← hb, wordValue_zero]

end

section
variable {num den : Nat}

theorem cast_shiftLeft (n k : Nat) : ((n <<< k : Nat) : ℚ) = n * 2 ^ k := by
  rw [Nat.shiftLeft_eq, Nat.cast_mul, Nat.cast_pow, Nat.cast_ofNat]

theorem lt_roundWord_iff_middle (num : Nat) (hd : 0 < den) (c : Nat) : c < roundWord (num <<< 1074) den ↔
    middle c < (num / den : ℚ) ∨ middle c = (num / den : ℚ) ∧ c % 2 = 1 := by
  rw [lt_roundWord_iff hd]
  have hd' : (0 : ℚ) < den := Nat.cast_pos.mpr hd
  have hm : middle c = (twiceMiddle c * den : Nat) / (2 * 2 ^ 1074 * den) := by
    rw [middle, wordValue, wordValue, twiceMiddle]
    push_cast
    field_simp
  have hn : (num / den : ℚ) = (2 * num <<< 1074 : Nat) / (2 * 2 ^ 1074 * den) := by
    rw [Nat.cast_mul, cast_shiftLeft, Nat.cast_ofNat]
    field_simp
  have hp : (0 : ℚ) < 2 * 2 ^ 1074 * den := by positivity
  rw [hm, hn, div_lt_div_iff_of_pos_right hp, div_left_inj' hp.ne', Nat.cast_lt, Nat.cast_inj]

theorem toNat_ofRatio (num den : Nat) :
    (ofRatio num den).bits.toNat = min (roundWord (num <<< 1074) den) infinity.magnitude := by
  rw [ofRatio, roundUnits_eq]
  exact UInt64.toNat_ofNat_of_lt' (Nat.lt_of_le_of_lt (Nat.min_le_right ..) (by decide))

theorem isNegative_ofRatio (num den : Nat) : (ofRatio num den).isNegative = false := by
  rw [isNegative, toNat_ofRatio, decide_eq_false_iff_not]
  exact Nat.not_le_of_lt (Nat.lt_of_le_of_lt (Nat.min_le_right ..) (by decide))

theorem magnitude_ofRatio (num den : Nat) :
    (ofRatio num den).magnitude = min (roundWord (num <<< 1074) den) infinity.magnitude := by
  rw [magnitude, toNat_ofRatio]
  exact Nat.mod_eq_of_lt (Nat.lt_of_le_of_lt (Nat.min_le_right ..) (by decide))

theorem isNaN_ofRatio (num den : Nat) : (ofRatio num den).isNaN = false := by
  rw [isNaN, magnitude_ofRatio, decide_eq_false_iff_not]
  exact Nat.not_lt_of_le (Nat.min_le_right ..)

theorem ofRatio_eq_iff {num den : Nat} {x : Binary64} (hx : x.isNegative = false) :
    ofRatio num den = x ↔ min (roundWord (num <<< 1074) den) infinity.magnitude = x.magnitude := by
  rw [← magnitude_ofRatio]
  exact ⟨congrArg magnitude, eq_of_magnitude (isNegative_ofRatio num den) hx⟩

/-- A number is rounded to itself. -/
theorem ofRatio_of_toRat {num den : Nat} {x : Binary64} (hd : 0 < den) (hx : x.isNegative = false) (hf : x.IsFinite)
    (h : (num / den : ℚ) = x.toRat) : ofRatio num den = x := by
  have hw : roundWord (num <<< 1074) den = x.magnitude := by
    refine eq_of_forall_lt_iff fun c => ?_
    rw [lt_roundWord_iff_middle num hd, h, toRat_of_plus hx, middle]
    have hc : wordValue c < wordValue (c + 1) := wordValue_strictMono (Nat.lt_succ_self c)
    rcases Nat.lt_or_ge c x.magnitude with hlt | hge
    · have hm : wordValue (c + 1) ≤ wordValue x.magnitude := wordValue_strictMono.monotone hlt
      exact iff_of_true (.inl (by linarith)) hlt
    · have hm : wordValue x.magnitude ≤ wordValue c := wordValue_strictMono.monotone hge
      exact iff_of_false (fun h => by rcases h with h | h <;> linarith) (Nat.not_lt_of_le hge)
  rw [ofRatio_eq_iff hx, hw]
  exact Nat.min_eq_left ((isFinite_iff x).mp hf).le

theorem ofRatio_eq_zero_iff (hd : 0 < den) : ofRatio num den = ⟨0⟩ ↔ (num / den : ℚ) ≤ 1 / 2 ^ 1075 := by
  have h : 0 < roundWord (num <<< 1074) den ↔ middle 0 < (num / den : ℚ) := by
    simpa using lt_roundWord_iff_middle num hd 0
  have hm : middle 0 = 1 / 2 ^ 1075 := by
    rw [middle, wordValue_zero, wordValue, show wordUnits (0 + 1) = 1 from rfl, pow_succ _ 1074, zero_add,
      Nat.cast_one, div_div]
  have hi : 0 < infinity.magnitude := by decide
  rw [ofRatio_eq_iff rfl, ← hm, ← not_lt, ← h, show magnitude ⟨0⟩ = 0 from rfl]
  omega

theorem ofRatio_eq_infinity_iff (hd : 0 < den) :
    ofRatio num den = infinity ↔ 2 ^ 1024 - 2 ^ 970 ≤ (num / den : ℚ) := by
  have h := lt_roundWord_iff_middle num hd (infinity.magnitude - 1)
  have hm : middle (infinity.magnitude - 1) = 2 ^ 1024 - 2 ^ 970 := by
    have h₁ : infinity.magnitude - 1 = 2 * hiddenBit - 1 + 2045 * hiddenBit := by decide
    have h₂ : infinity.magnitude - 1 + 1 = 2 * hiddenBit + 2045 * hiddenBit := by decide
    have h₃ : (2 : ℚ) ^ 2045 / 2 ^ 1074 = 2 * 2 ^ 970 := by
      rw [div_eq_iff (pow_ne_zero _ two_ne_zero), ← pow_succ', ← pow_add]
    have h₄ : (2 : ℚ) ^ 1024 = 2 ^ 54 * 2 ^ 970 := by rw [← pow_add]
    rw [middle, h₂, h₁, wordValue_add (by decide) (by decide), wordValue_add (by decide) (by decide), h₃, h₄]
    generalize (2 : ℚ) ^ 970 = p
    norm_num [hiddenBit]
    ring
  have hi : (infinity.magnitude - 1) % 2 = 1 := by decide
  rw [ofRatio_eq_iff rfl, ← hm, le_iff_lt_or_eq, ← and_iff_left (a := middle _ = _) hi, ← h, min_eq_right_iff]
  omega

theorem nearest_ofRatio (hd : 0 < den) (h : (num / den : ℚ) < 2 ^ 1024 - 2 ^ 970) :
    Nearest (num / den) (ofRatio num den) := by
  have hp := isNegative_ofRatio num den
  have hm := magnitude_ofRatio num den
  have hi : (ofRatio num den).magnitude < infinity.magnitude := by
    refine Nat.lt_of_le_of_ne (hm ▸ Nat.min_le_right ..) fun he => ?_
    exact absurd ((ofRatio_eq_infinity_iff hd).mp (eq_of_magnitude hp rfl he)) (not_le.mpr h)
  have hb : (ofRatio num den).magnitude = roundWord (num <<< 1074) den := by omega
  have hq : (0 : ℚ) ≤ num / den := by positivity
  have hn := toRat_nearest hq (lt_roundWord_iff_middle num hd)
  rw [← hb, ← toRat_of_plus hp, ← fraction_mod_two] at hn
  exact ⟨(isFinite_iff _).mpr hi, hp, fun _ => (hn _).1, fun _ => (hn _).2⟩

end

/-- Only one number is nearest. -/
theorem Nearest.unique {q : ℚ} {x y : Binary64} (hx : Nearest q x) (hy : Nearest q y) : x = y := by
  refine eq_of_magnitude hx.plus hy.plus ?_
  by_contra hn
  wlog hl : x.magnitude < y.magnitude generalizing x y
  · exact this hy hx (Ne.symm hn) (by omega)
  have he : |q - y.toRat| = |q - x.toRat| := le_antisymm (hy.nearest hx.finite) (hx.nearest hy.finite)
  have hm : ∀ {w : Binary64}, w.isNegative = false → w.toRat = wordValue w.magnitude := toRat_of_plus
  have hv : x.toRat < y.toRat := by
    rw [hm hx.plus, hm hy.plus]
    exact wordValue_strictMono hl
  have hs := add_eq_of_abs_sub_eq hv.ne he.symm
  have h₁ := (hx.even hy.finite he).resolve_left hv.ne'
  have h₂ := (hy.even hx.finite he.symm).resolve_left hv.ne
  rw [fraction_mod_two] at h₁ h₂
  -- both words are even, so that there is one between them, and it is nearer
  have hb : x.magnitude + 1 < y.magnitude := by omega
  obtain ⟨z, hz, hzm⟩ := exists_magnitude (Nat.lt_trans hb (Nat.mod_lt _ (by decide)))
  have hzf : z.IsFinite := (isFinite_iff z).mpr (hzm ▸ Nat.lt_trans hb ((isFinite_iff y).mp hy.finite))
  have hxz : x.toRat < z.toRat := by
    rw [hm hx.plus, hm hz, hzm]
    exact wordValue_strictMono (Nat.lt_succ_self _)
  have hzy : z.toRat < y.toRat := by
    rw [hm hy.plus, hm hz, hzm]
    exact wordValue_strictMono hb
  have hn := abs_sub_le_iff_mul_nonneg.mp (hx.nearest hzf)
  exact absurd hn (not_le.mpr (mul_neg_of_neg_of_pos (by linarith) (by linarith)))

theorem rounds_ofRatio {num den : Nat} (hd : 0 < den) : Rounds (num / den) (ofRatio num den) := by
  rcases lt_or_ge (num / den : ℚ) (2 ^ 1024 - 2 ^ 970) with h | h
  · exact .nearest h (nearest_ofRatio hd h)
  · rw [(ofRatio_eq_infinity_iff hd).mpr h]
    exact .overflow h

theorem Rounds.unique {q : ℚ} {x y : Binary64} (hx : Rounds q x) (hy : Rounds q y) : x = y := by
  cases hx with
  | nearest h hx =>
    cases hy with
    | nearest _ hy => exact hx.unique hy
    | overflow h' => exact absurd h (not_lt.mpr h')
  | overflow h =>
    cases hy with
    | nearest h' => exact absurd h' (not_lt.mpr h)
    | overflow => rfl

end Binary64
end LoxLex
