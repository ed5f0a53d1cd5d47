import LoxLex.Proofs.Grid

/-!
# The shortest decimal

The search goes from coarse grids to fine ones and stops at the first that has a decimal for the number. The
first grid lies above the number, and the last is finer than the interval of the number, so the search ends.
A shorter decimal, or one as short on a finer grid, would leave a power of ten between it and the decimal that
is found, and a power of ten is on a coarser grid.
-/

namespace LoxLex

/-! ## Digits -/

namespace Decimal
variable {m : Decimal} {k : Nat}

/-- How many digits are written. -/
def length (m : Decimal) : Nat := (Nat.toDigits 10 m.digits).length

theorem length_le_iff (hk : 0 < k) : m.length ≤ k ↔ m.digits < 10 ^ k :=
  Nat.length_toDigits_le_iff (by decide) hk

theorem length_pos (m : Decimal) : 0 < m.length := List.length_pos_of_ne_nil Nat.toDigits_ne_nil

theorem toRat_power (e : Int) : (⟨1, e⟩ : Decimal).toRat = 10 ^ e := by simp [toRat]

theorem toRat_lt (m : Decimal) : m.toRat < 10 ^ (m.exponent + m.length) := by
  have h : (m.digits : ℚ) < 10 ^ m.length := by exact_mod_cast (length_le_iff m.length_pos).mp le_rfl
  rw [zpow_add₀ (by decide), mul_comm, zpow_natCast]
  exact mul_lt_mul_of_pos_right h (ten_zpow_pos _)

theorem le_toRat (hm : m.digits ≠ 0) : 10 ^ (m.exponent + m.length - 1) ≤ m.toRat := by
  obtain ⟨k, hk⟩ := Nat.exists_eq_succ_of_ne_zero m.length_pos.ne'
  have h : 10 ^ k ≤ m.digits := by
    rcases Nat.eq_zero_or_pos k with rfl | hp
    · exact Nat.pos_of_ne_zero hm
    · have := (length_le_iff (m := m) hp).not.mp (by omega)
      omega
  have he : m.exponent + m.length - 1 = m.exponent + k := by omega
  have h : (10 : ℚ) ^ k ≤ m.digits := by exact_mod_cast h
  rw [he, zpow_add₀ (by decide), mul_comm, zpow_natCast]
  exact mul_le_mul_of_nonneg_right h (ten_zpow_pos _).le

/-- `f` is written rather than `m` for a number of the value `q`: it is shorter, or else nearer. -/
def Preferred (q : ℚ) (f m : Decimal) : Prop :=
  f.length < m.length ∨ f.length = m.length ∧ Nearer q f.toRat m.toRat

theorem zero_preferred (m : Decimal) : Preferred 0 ⟨0, 0⟩ m := by
  have hz : (⟨0, 0⟩ : Decimal).toRat = 0 := by simp [toRat]
  have hm : 0 ≤ m.toRat := mul_nonneg (Nat.cast_nonneg _) (ten_zpow_pos _).le
  refine (Nat.lt_or_eq_of_le m.length_pos).imp_right fun h => ⟨h, ?_⟩
  rw [hz]
  rcases hm.lt_or_eq with h | h
  · exact nearer_of_ge hm (by linarith)
  · exact .inr ⟨by rw [h], h.ge⟩

end Decimal

namespace Binary64
variable {x : Binary64} {f m : Decimal}

/-! ## The words around a number -/

theorem middle_bounds (hf : x.IsFinite) (hm : m.value = x) :
    m.toRat ≤ middle x.magnitude ∧ ∀ c < x.magnitude, middle c ≤ m.toRat := by
  have hr := m.lt_magnitude_value
  rw [hm] at hr
  refine ⟨not_lt.mp fun h => Nat.lt_irrefl _ ((hr _).mpr ⟨.inl h, (isFinite_iff x).mp hf⟩), fun c hc => ?_⟩
  rcases ((hr c).mp hc).1 with h | h
  · exact h.le
  · exact h.1.le

theorem value_of_middle (hp : x.isNegative = false) (hf : x.IsFinite) (h₁ : middle (x.magnitude - 1) < m.toRat)
    (h₂ : m.toRat ≤ x.toRat) : m.value = x := by
  refine eq_of_magnitude m.isNegative_value hp (Nat.le_antisymm ?_ ?_)
  · rw [← toRat_exact hp] at h₂
    have h := Decimal.value_mono h₂
    rwa [value_exact hp hf] at h
  · by_contra hl
    have hc : x.magnitude - 1 < m.value.magnitude := (m.lt_magnitude_value _).mpr
      ⟨.inl h₁, lt_of_le_of_lt (Nat.sub_le _ _) ((isFinite_iff x).mp hf)⟩
    omega

theorem digits_ne_zero (hf : x.IsFinite) (hz : 0 < x.magnitude) (hm : m.value = x) : m.digits ≠ 0 := by
  have h := (middle_bounds hf hm).2 0 hz
  have h₁ : wordValue 0 < wordValue (0 + 1) := wordValue_strictMono Nat.zero_lt_one
  rw [middle, wordValue_zero] at h
  rw [wordValue_zero] at h₁
  intro hd
  rw [Decimal.toRat, hd, Nat.cast_zero, zero_mul] at h
  linarith

/-- A number is at most 2 ^ 53 steps from zero, the step being the one to the number below. -/
theorem wordUnits_le_step (b : Nat) : wordUnits (b + 1) ≤ 2 ^ 53 * (wordUnits (b + 1) - wordUnits b) := by
  obtain ⟨k, s, rfl, hk, hs⟩ := exists_word b
  have hb : k + s * hiddenBit + 1 = k + 1 + s * hiddenBit := by omega
  have hh : 2 * hiddenBit = 2 ^ 53 := by decide
  rw [hb, wordUnits_add hk.le hs, wordUnits_add (m := k + 1) hk fun h => hs (by omega), ← Nat.sub_mul,
    Nat.add_sub_cancel_left, Nat.one_mul]
  exact Nat.mul_le_mul_right _ (hh ▸ hk)

theorem wordValue_le_step (b : Nat) : wordValue (b + 1) ≤ 2 ^ 53 * (wordValue (b + 1) - wordValue b) := by
  have h : (wordUnits (b + 1) : ℚ) ≤ 2 ^ 53 * (wordUnits (b + 1) - wordUnits b) := by
    have hl := wordUnits_strictMono.monotone (Nat.le_succ b)
    rw [← Nat.cast_sub hl]
    exact_mod_cast wordUnits_le_step b
  have hs : (0 : ℚ) < 2 ^ 1074 := pow_pos two_pos _
  unfold wordValue
  rw [← sub_div, ← mul_div_assoc]
  exact div_le_div_of_nonneg_right h hs.le

/-- Only the least numbers are so near to zero that it is no more than five times both steps. -/
theorem lt_of_wordUnits_lt {b : Nat} (h : wordUnits (b + 1) < 5 * (wordUnits (b + 2) - wordUnits b)) : b < 14 := by
  obtain ⟨k, s, rfl, hk, hs⟩ := exists_word b
  have hb : k + s * hiddenBit + 1 = k + 1 + s * hiddenBit := by omega
  have hu : wordUnits (k + s * hiddenBit + 2) ≤ (k + 3) * 2 ^ s := by
    rcases Nat.lt_or_eq_of_le (show k + 1 ≤ 2 * hiddenBit from hk) with h | h
    · have hb : k + s * hiddenBit + 2 = k + 2 + s * hiddenBit := by omega
      rw [hb, wordUnits_add h fun h => hs (by omega)]
      exact Nat.mul_le_mul_right _ (by omega)
    · have hb : k + s * hiddenBit + 2 = hiddenBit + 1 + (s + 1) * hiddenBit := by rw [Nat.add_mul]; omega
      rw [hb, wordUnits_add (by decide) fun h => absurd h (by omega), pow_succ', ← mul_assoc]
      exact Nat.mul_le_mul_right _ (by omega)
  rw [hb, wordUnits_add hk.le hs, wordUnits_add (m := k + 1) hk fun h => hs (by omega)] at h
  have hk : k + 1 < 15 := by
    have h₂ : (k + 1) * 2 ^ s < 15 * 2 ^ s := by
      have h₃ : (k + 3) * 2 ^ s - k * 2 ^ s = 3 * 2 ^ s := by rw [← Nat.sub_mul, Nat.add_sub_cancel_left]
      omega
    exact lt_of_mul_lt_mul_right h₂ (Nat.zero_le _)
  obtain rfl := hs (lt_trans (Nat.lt_of_succ_lt_succ hk) (by decide))
  omega

theorem lt_of_wordValue_lt {b : Nat} (h : wordValue (b + 1) < 5 * (wordValue (b + 2) - wordValue b)) : b < 14 := by
  have hs : (0 : ℚ) < 2 ^ 1074 := pow_pos two_pos _
  have hl : wordUnits b ≤ wordUnits (b + 2) := wordUnits_strictMono.monotone (Nat.le_add_right b 2)
  unfold wordValue at h
  rw [← sub_div, ← mul_div_assoc, div_lt_div_iff_of_pos_right hs, ← Nat.cast_sub hl] at h
  exact lt_of_wordUnits_lt (by exact_mod_cast h)

/-! ## The grids of the search -/

theorem exists_first {g : Nat → Option Decimal} {k : Nat} (h : (List.range k).findSome? g = some f) :
    ∃ i, g i = some f ∧ ∀ j < i, g j = none := by
  obtain ⟨l, i, r, hr, hi, hn⟩ := List.findSome?_eq_some_iff.mp h
  have hg : ∀ j < k, (l ++ i :: r)[j]? = some j := fun j hj => by rw [← hr, List.getElem?_range hj]
  have hk : k = l.length + (r.length + 1) := by simpa using congrArg List.length hr
  have hl : i = l.length := by simpa using hg l.length (by omega)
  refine ⟨i, hi, fun j hj => hn j ?_⟩
  have hj' := hg j (by omega)
  rw [List.getElem?_append_left (hl ▸ hj)] at hj'
  exact List.mem_of_getElem? hj'

theorem units_ne_zero (hz : 0 < x.magnitude) : x.units ≠ 0 := (wordUnits_strictMono hz).ne_bot

theorem log2_units_lt (hf : x.IsFinite) (hz : 0 < x.magnitude) : x.units.log2 < 53 + 2045 := by
  have hw : ∀ k, wordUnits (2 * hiddenBit + k * hiddenBit) = 2 ^ (53 + k) := fun k => by
    have hh : 2 * hiddenBit = 2 ^ 53 := by decide
    rw [wordUnits_add le_rfl fun h => absurd h (by decide), hh, ← pow_add]
  have hi : infinity.magnitude = 2 * hiddenBit + 2045 * hiddenBit := by decide
  have hx := wordUnits_strictMono ((isFinite_iff x).mp hf)
  rw [hi, hw] at hx
  generalize 2045 = k at hx ⊢
  exact (Nat.log2_lt (units_ne_zero hz)).mpr hx

/-- The exponent of the first grid, from the highest bit of a number. -/
def topOf (l : Nat) : Int := ((l : Int) - 1073) * 30103 / 100000 + 1

theorem topOf_bounds {l : Nat} (h : l < 46 * 46) :
    Nat.pow 2 (l + 1) * Nat.pow 10 (-topOf l).toNat ≤ Nat.pow 10 (topOf l).toNat <<< 1074 ∧
    Nat.pow 10 (topOf l).toNat <<< 1074 ≤ Nat.pow 2 (l + 9) * Nat.pow 10 (-topOf l).toNat := by
  -- the bits are checked one by one, in rows so that the check is not nested too deep
  have hc : ∀ i < 46, ∀ j < 46,
      Nat.pow 2 (46 * i + j + 1) * Nat.pow 10 (-topOf (46 * i + j)).toNat ≤
        Nat.pow 10 (topOf (46 * i + j)).toNat <<< 1074 ∧
      Nat.pow 10 (topOf (46 * i + j)).toNat <<< 1074 ≤
        Nat.pow 2 (46 * i + j + 9) * Nat.pow 10 (-topOf (46 * i + j)).toNat := by decide +kernel
  have := hc (l / 46) (Nat.div_lt_of_lt_mul h) (l % 46) (Nat.mod_lt _ (by decide))
  rwa [Nat.div_add_mod] at this

section
variable (hp : x.isNegative = false) (hf : x.IsFinite) (hz : 0 < x.magnitude)
include hp hf hz

theorem top_bounds : x.toRat < 10 ^ x.topExponent ∧ (10 : ℚ) ^ x.topExponent ≤ 512 * x.toRat := by
  obtain ⟨h₁, h₂⟩ := topOf_bounds (lt_trans (log2_units_lt hf hz) (by decide))
  have hl := Nat.log2_self_le (units_ne_zero hz)
  have hh : x.units < 2 ^ (x.units.log2 + 1) := Nat.lt_log2_self
  have ht : x.topExponent = topOf x.units.log2 := rfl
  rw [ht, toRat_eq_units hp, Decimal.ten_zpow_eq]
  have hq : 0 < Nat.pow 10 (-topOf x.units.log2).toNat := Nat.pow_pos (by decide)
  rw [Nat.shiftLeft_eq] at h₁ h₂
  generalize Nat.pow 10 (-topOf x.units.log2).toNat = q at h₁ h₂ hq
  generalize Nat.pow 10 (topOf x.units.log2).toNat = p at h₁ h₂
  generalize 1074 = k at h₁ h₂ ⊢
  have hq' : (0 : ℚ) < q := Nat.cast_pos.mpr hq
  have hs : (0 : ℚ) < 2 ^ k := pow_pos two_pos k
  have h₁ : x.units * q < p * 2 ^ k := lt_of_lt_of_le (Nat.mul_lt_mul_of_pos_right hh hq) h₁
  have h₂ : p * 2 ^ k ≤ 512 * x.units * q := by
    refine h₂.trans (Nat.mul_le_mul_right q ?_)
    rw [Nat.pow_eq, pow_add, mul_comm]
    exact Nat.mul_le_mul_left _ hl
  rw [← Nat.cast_lt (α := ℚ)] at h₁
  rw [← Nat.cast_le (α := ℚ)] at h₂
  push_cast at h₁ h₂
  constructor
  · rwa [div_lt_div_iff₀ hs hq']
  · rw [div_le_iff₀ hq', ← mul_div_assoc, div_mul_eq_mul_div, le_div_iff₀ hs]
    exact h₂

theorem exists_on_last : ∃ m : Decimal, m.exponent = x.topExponent - 19 ∧ m.value = x := by
  obtain ⟨b, hb, ha, -⟩ := exists_neighbours hp (x.topExponent - 19)
  obtain ⟨-, ht⟩ := top_bounds hp hf hz
  refine ⟨⟨b, x.topExponent - 19⟩, rfl, value_of_middle hp hf ?_ hb⟩
  obtain ⟨c, hc⟩ := Nat.exists_eq_succ_of_ne_zero hz.ne'
  have hx : x.toRat = wordValue (c + 1) := by rw [toRat_of_plus hp, hc]
  have he : (10 : ℚ) ^ x.topExponent = 10 ^ (x.topExponent - 19) * 10 ^ 19 := by
    rw [zpow_sub₀ (by decide)]
    field_simp
  have hstep := wordValue_le_step c
  rw [hc, Nat.succ_sub_one, middle]
  rw [he, hx] at ht
  rw [Decimal.toRat_succ, hx] at ha
  linarith

/-! ## The search -/

/-- The search ends, and what it ends with is the first that is found. -/
theorem exists_found : ∃ i : Nat, x.onGrid (x.topExponent - i) = some x.shortest ∧
    ∀ j < i, x.onGrid (x.topExponent - j) = none := by
  have hs : x.shortest =
      ((List.range 20).findSome? fun (i : Nat) => x.onGrid (x.topExponent - i)).getD x.exact := rfl
  rw [hs]
  cases h : (List.range 20).findSome? fun (i : Nat) => x.onGrid (x.topExponent - i) with
  | some m => exact exists_first (g := fun i => x.onGrid (x.topExponent - i)) h
  | none =>
    obtain ⟨m, he, hm⟩ := exists_on_last hp hf hz
    obtain ⟨f, hg, -⟩ := onGrid_spec hp hf hm he.ge
    have hl := List.findSome?_eq_none_iff.mp h 19 (by simp)
    rw [Nat.cast_ofNat, hg] at hl
    cases hl

theorem value_shortest : x.shortest.value = x := by
  obtain ⟨i, hi, -⟩ := exists_found hp hf hz
  exact (onGrid_some hi).1

theorem nearer_shortest (hm : m.value = x) (he : x.shortest.exponent ≤ m.exponent) :
    Nearer x.toRat x.shortest.toRat m.toRat := by
  obtain ⟨i, hi, -⟩ := exists_found hp hf hz
  obtain ⟨-, hs⟩ := onGrid_some hi
  obtain ⟨hs, -⟩ := mem_neighbours hp hs
  obtain ⟨f, hg, hn⟩ := onGrid_spec hp hf hm (hs.symm.trans_le he)
  rw [hi] at hg
  rwa [Option.some.inj hg]

/-- On a coarser grid there is nothing. -/
theorem exponent_le_shortest (hl : 1 < x.shortest.length) (hm : m.value = x) :
    m.exponent ≤ x.shortest.exponent := by
  obtain ⟨i, hi, hn⟩ := exists_found hp hf hz
  obtain ⟨-, hs⟩ := onGrid_some hi
  obtain ⟨he, hle⟩ := mem_neighbours hp hs
  rcases Nat.eq_zero_or_pos i with rfl | hpos
  · -- on the first grid there is only one digit
    exfalso
    obtain ⟨ht, -⟩ := top_bounds hp hf hz
    rw [Nat.cast_zero, sub_zero] at hle he
    have hd : ¬ x.shortest.digits < 10 ^ 1 := (Decimal.length_le_iff Nat.zero_lt_one).not.mp (by omega)
    have hd : (10 : ℚ) ≤ x.shortest.digits := by exact_mod_cast not_lt.mp hd
    have hg := Decimal.ten_zpow_pos x.topExponent
    have := mul_le_mul_of_nonneg_right hd hg.le
    rw [Decimal.toRat, he] at hle
    linarith
  · by_contra hlt
    obtain ⟨f, hg, -⟩ := onGrid_spec (e := x.topExponent - (x.topExponent - m.exponent).toNat) hp hf hm (by omega)
    rw [hn _ (by omega)] at hg
    cases hg

/-! ## Fewest digits -/

/-- A power of ten between a decimal and the one that is found. -/
theorem power_between {k : Int} (hm : m.value = x) (h₁ : m.exponent + m.length ≤ k)
    (h₂ : k < x.shortest.exponent + x.shortest.length) :
    m.toRat < 10 ^ k ∧ 10 ^ k ≤ x.shortest.toRat ∧ (⟨1, k⟩ : Decimal).value = x := by
  have hs := value_shortest hp hf hz
  have hmk : m.toRat < 10 ^ k := m.toRat_lt.trans_le (zpow_le_zpow_right₀ (by decide) h₁)
  have hks : 10 ^ k ≤ x.shortest.toRat :=
    (zpow_le_zpow_right₀ (by decide) (Int.le_sub_one_of_lt h₂)).trans (Decimal.le_toRat (digits_ne_zero hf hz hs))
  refine ⟨hmk, hks, ?_⟩
  rw [← Decimal.toRat_power] at hmk hks
  exact Decimal.value_of_between hm hs hmk.le hks

theorem length_shortest_le (hm : m.value = x) : x.shortest.length ≤ m.length := by
  have hpos := m.length_pos
  by_contra hl
  have he := exponent_le_shortest hp hf hz (by omega) hm
  obtain ⟨-, -, hk⟩ := power_between (k := x.shortest.exponent + m.length) hp hf hz hm (by omega) (by omega)
  have hke := exponent_le_shortest hp hf hz (by omega) hk
  dsimp only at hke
  omega

end

/-! ## The nearest of them -/

theorem exists_least_number : ∀ c < 14, ∃ x : Binary64, x.isNegative = false ∧ x.magnitude = c + 1 ∧
    19 * Nat.pow 10 (x.shortest.exponent - 1).toNat <<< 1074 ≤
      2 * x.units * Nat.pow 10 (-(x.shortest.exponent - 1)).toNat := by
  have h : ∀ c < 14, (mk (UInt64.ofNat (c + 1))).isNegative = false ∧ (mk (UInt64.ofNat (c + 1))).magnitude = c + 1 ∧
      19 * Nat.pow 10 ((mk (UInt64.ofNat (c + 1))).shortest.exponent - 1).toNat <<< 1074 ≤
        2 * (mk (UInt64.ofNat (c + 1))).units *
          Nat.pow 10 (-((mk (UInt64.ofNat (c + 1))).shortest.exponent - 1)).toNat := by decide +kernel
  exact fun c hc => ⟨_, h c hc⟩

section
variable (hp : x.isNegative = false) (hf : x.IsFinite) (hz : 0 < x.magnitude)
include hp hf hz

/-- Where a power of ten and a decimal one digit below it are both rounded to the number, it is nearly the power. -/
theorem nearly_power (hm : m.value = x) (h₁ : m.toRat ≤ 9 * 10 ^ (x.shortest.exponent - 1))
    (h₂ : (⟨1, x.shortest.exponent⟩ : Decimal).value = x) (h₃ : x.toRat < 10 ^ x.shortest.exponent) :
    19 * 10 ^ (x.shortest.exponent - 1) ≤ 2 * x.toRat := by
  have he := Decimal.ten_zpow_eq_mul x.shortest.exponent
  obtain ⟨c, hc⟩ := Nat.exists_eq_succ_of_ne_zero hz.ne'
  obtain ⟨hup, -⟩ := middle_bounds hf h₂
  have hlow := (middle_bounds hf hm).2 c (by omega)
  rw [hc, middle, Decimal.toRat_power] at hup
  rw [middle] at hlow
  rw [toRat_of_plus hp, hc] at h₃
  -- so it is one of the least numbers, which are checked one by one
  obtain ⟨y, hy, hyc, hn⟩ := exists_least_number c (lt_of_wordValue_lt (by linarith))
  obtain rfl : x = y := eq_of_magnitude hp hy (hc.trans hyc.symm)
  rw [toRat_eq_units hp, Decimal.ten_zpow_eq]
  have hq : (0 : ℚ) < (Nat.pow 10 (-(x.shortest.exponent - 1)).toNat : Nat) :=
    Nat.cast_pos.mpr (Nat.pow_pos (by decide))
  have hs : (0 : ℚ) < 2 ^ 1074 := pow_pos two_pos _
  rw [← Nat.cast_le (α := ℚ), Nat.cast_mul, cast_shiftLeft, Nat.cast_mul, Nat.cast_mul, Nat.cast_ofNat,
    Nat.cast_ofNat] at hn
  rw [← mul_div_assoc, ← mul_div_assoc, div_le_div_iff₀ hq hs, mul_assoc]
  exact hn

theorem nearer_shortest_of_length (hm : m.value = x) (hl : m.length = x.shortest.length) :
    Nearer x.toRat x.shortest.toRat m.toRat := by
  rcases le_or_gt x.shortest.exponent m.exponent with he | he
  · exact nearer_shortest hp hf hz hm he
  -- there is only one digit, else a power of ten were on a coarser grid
  have hone : x.shortest.length = 1 := by
    have hpos := x.shortest.length_pos
    by_contra h
    obtain ⟨-, -, hk⟩ := power_between (k := x.shortest.exponent + x.shortest.length - 1) hp hf hz hm (by omega)
      (by omega)
    have hke := exponent_le_shortest hp hf hz (by omega) hk
    dsimp only at hke
    omega
  obtain ⟨hmk, hks, hk⟩ := power_between (k := x.shortest.exponent) hp hf hz hm (by omega) (by omega)
  have hn := (nearer_shortest hp hf hz hk (by dsimp only; rfl)).le
  rw [Decimal.toRat_power] at hn
  rcases le_or_gt ((10 : ℚ) ^ x.shortest.exponent) x.toRat with hx | hx
  · refine .inl (hn.trans_lt ?_)
    rw [abs_of_nonneg (by linarith), abs_of_nonneg (by linarith)]
    linarith
  · -- the number stands before the power, and the power is what is found
    rw [abs_of_nonpos (by linarith), abs_of_nonpos (by linarith)] at hn
    have hnine : m.toRat ≤ 9 * 10 ^ (x.shortest.exponent - 1) := by
      have hd := (Decimal.length_le_iff Nat.zero_lt_one).mp (hl.trans hone).le
      have hd : (m.digits : ℚ) ≤ 9 := by exact_mod_cast Nat.le_of_lt_succ hd
      have hg := zpow_le_zpow_right₀ (show (1 : ℚ) ≤ 10 by decide) (Int.le_sub_one_of_lt he)
      exact mul_le_mul hd hg (Decimal.ten_zpow_pos _).le (by decide)
    have hnear := nearly_power hp hf hz hm hnine hk hx
    have he := Decimal.ten_zpow_eq_mul x.shortest.exponent
    exact nearer_of_le (hmk.le.trans hks) (by linarith)

/-- **The shortest decimal.** Of the decimals that round to a number, the one that is chosen is preferred to all. -/
theorem preferred_shortest (hm : m.value = x) : x.shortest.Preferred x.toRat m := by
  rcases (length_shortest_le hp hf hz hm).lt_or_eq with h | h
  · exact .inl h
  · exact .inr ⟨h, nearer_shortest_of_length hp hf hz hm h.symm⟩

end

end Binary64
end LoxLex
