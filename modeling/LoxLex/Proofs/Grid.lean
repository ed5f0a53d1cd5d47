import LoxLex.Number.Shortest
import LoxLex.Proofs.Rounding

/-!
# Grids of decimals

The decimals that round to a number fill an interval around it. So if a grid of decimals has one that rounds
to the number, then one of the two neighbours of the number on that grid does, and the nearer of those that do
is nearer than all others on the grid.
-/

namespace LoxLex

/-- The number that a decimal stands for. -/
def Decimal.toRat (m : Decimal) : ℚ := m.digits * 10 ^ m.exponent

namespace Decimal
variable {m n k : Decimal} {e : Int} {x : Binary64}

theorem ten_zpow_eq (e : Int) : (10 : ℚ) ^ e = (Nat.pow 10 e.toNat : Nat) / (Nat.pow 10 (-e).toNat : Nat) := by
  obtain ⟨k, rfl | rfl⟩ := e.eq_nat_or_neg
  · have h : (k : Int).toNat = k ∧ (-(k : Int)).toNat = 0 := by omega
    rw [h.1, h.2, zpow_natCast, Nat.pow_eq, Nat.pow_eq, pow_zero, Nat.cast_one, div_one, Nat.cast_pow, Nat.cast_ofNat]
  · have h : (-(k : Int)).toNat = 0 ∧ (- -(k : Int)).toNat = k := by omega
    rw [h.1, h.2, zpow_neg, zpow_natCast, Nat.pow_eq, Nat.pow_eq, pow_zero, Nat.cast_one, one_div, Nat.cast_pow,
      Nat.cast_ofNat]

theorem ten_zpow_pos (e : Int) : (0 : ℚ) < 10 ^ e := zpow_pos (by decide) e

theorem ten_zpow_eq_mul (e : Int) : (10 : ℚ) ^ e = 10 ^ (e - 1) * 10 := by
  rw [← zpow_add_one₀ (by decide), sub_add_cancel]

theorem toRat_eq (m : Decimal) :
    m.toRat = (m.digits * Nat.pow 10 m.exponent.toNat : Nat) / (Nat.pow 10 (-m.exponent).toNat : Nat) := by
  rw [toRat, ten_zpow_eq, Nat.cast_mul, mul_div_assoc]

/-! ## The interval of a number -/

theorem isNegative_value (m : Decimal) : m.value.isNegative = false := Binary64.isNegative_ofRatio _ _

theorem value_of_toRat (hx : x.isNegative = false) (hf : x.IsFinite) (h : m.toRat = x.toRat) : m.value = x :=
  Binary64.ofRatio_of_toRat (Nat.pow_pos (by decide)) hx hf (m.toRat_eq ▸ h)

theorem lt_magnitude_value (m : Decimal) (c : Nat) : c < m.value.magnitude ↔
    (Binary64.middle c < m.toRat ∨ Binary64.middle c = m.toRat ∧ c % 2 = 1) ∧ c < Binary64.infinity.magnitude := by
  have hd : 0 < Nat.pow 10 (-m.exponent).toNat := Nat.pow_pos (by decide)
  rw [value, Binary64.magnitude_ofRatio, lt_min_iff, Binary64.lt_roundWord_iff_middle _ hd, ← toRat_eq]

/-- Rounding keeps the order. -/
theorem value_mono (h : m.toRat ≤ n.toRat) : m.value.magnitude ≤ n.value.magnitude := by
  refine le_of_forall_lt fun c => ?_
  rw [lt_magnitude_value, lt_magnitude_value]
  refine And.imp_left ?_
  rintro (hc | ⟨hc, ho⟩)
  · exact .inl (hc.trans_le h)
  · exact (hc.trans_le h).lt_or_eq.imp_right fun he => ⟨he, ho⟩

theorem value_of_between (hm : m.value = x) (hn : n.value = x) (h₁ : m.toRat ≤ k.toRat) (h₂ : k.toRat ≤ n.toRat) :
    k.value = x := by
  have h := value_mono h₁
  have h' := value_mono h₂
  rw [hm] at h
  rw [hn] at h'
  exact Binary64.eq_of_magnitude k.isNegative_value (hm ▸ m.isNegative_value) (Nat.le_antisymm h' h)

/-! ## The points of a grid -/

theorem toRat_succ (b : Nat) (e : Int) : (⟨b + 1, e⟩ : Decimal).toRat = (⟨b, e⟩ : Decimal).toRat + 10 ^ e := by
  unfold toRat
  push_cast
  ring

theorem grid_le {j k : Nat} (h : j ≤ k) : (⟨j, e⟩ : Decimal).toRat ≤ (⟨k, e⟩ : Decimal).toRat :=
  mul_le_mul_of_nonneg_right (Nat.cast_le.mpr h) (ten_zpow_pos e).le

/-- A decimal of a coarser grid is on every finer grid. -/
theorem exists_on_grid (h : e ≤ m.exponent) : ∃ k : Nat, m.toRat = (⟨k, e⟩ : Decimal).toRat := by
  obtain ⟨n, hn⟩ := Int.eq_ofNat_of_zero_le (Int.sub_nonneg_of_le h)
  refine ⟨m.digits * 10 ^ n, ?_⟩
  have he : m.exponent = n + e := by omega
  rw [toRat, toRat, he, zpow_add₀ (by decide), zpow_natCast]
  push_cast
  ring

theorem grid_apart (b : Nat) (h : e ≤ m.exponent) :
    m.toRat ≤ (⟨b, e⟩ : Decimal).toRat ∨ (⟨b + 1, e⟩ : Decimal).toRat ≤ m.toRat := by
  obtain ⟨k, hk⟩ := exists_on_grid h
  rw [hk]
  exact (Nat.lt_or_ge b k).symm.imp grid_le grid_le

end Decimal

/-! ## The nearer point -/

/-- Of two points, `f` is the nearer one to `q`, or the upper one of two as near. -/
def Nearer (q f m : ℚ) : Prop := |q - f| < |q - m| ∨ |q - f| = |q - m| ∧ m ≤ f

section
variable {q f m : ℚ}

theorem Nearer.le (h : Nearer q f m) : |q - f| ≤ |q - m| := h.elim le_of_lt fun h => h.1.le

theorem nearer_of_le (h : m ≤ f) (hq : m + f ≤ 2 * q) : Nearer q f m := by
  have hn : |q - f| ≤ |q - m| := Binary64.abs_sub_le_iff_mul_nonneg.mpr (mul_nonneg (by linarith) (by linarith))
  exact hn.lt_or_eq.imp_right fun he => ⟨he, h⟩

theorem nearer_of_ge (h : f ≤ m) (hq : 2 * q < f + m) : Nearer q f m := by
  have hn : |q - f| ≤ |q - m| :=
    Binary64.abs_sub_le_iff_mul_nonneg.mpr (mul_nonneg_of_nonpos_of_nonpos (by linarith) (by linarith))
  refine hn.lt_or_eq.imp_right fun he => ⟨he, ?_⟩
  by_contra hl
  exact hq.ne' (Binary64.add_eq_of_abs_sub_eq (by linarith) he)

end

namespace Binary64
variable {x : Binary64} {e : Int} {f m : Decimal}

theorem toRat_eq_units (hp : x.isNegative = false) : x.toRat = x.units / 2 ^ 1074 := by
  rw [toRat, hp, absRat_eq_units]
  rfl

theorem toRat_exact (hp : x.isNegative = false) : x.exact.toRat = x.toRat := by
  have he : (-1074 : Int) = -(1074 : Nat) := rfl
  rw [toRat_eq_units hp, Decimal.toRat, exact, he]
  -- no power is to be computed
  generalize (1074 : Nat) = k
  have hten : (10 : ℚ) ^ k = 2 ^ k * 5 ^ k := by rw [← mul_pow]; norm_num
  rw [zpow_neg, zpow_natCast, Nat.pow_eq, Nat.cast_mul, Nat.cast_pow, Nat.cast_ofNat, hten]
  field_simp

theorem value_exact (hp : x.isNegative = false) (hf : x.IsFinite) : x.exact.value = x :=
  Decimal.value_of_toRat hp hf (toRat_exact hp)

/-! ## The neighbours of a number -/

/-- The magnitude of a number, counted in steps of a grid. -/
theorem toRat_eq_steps (hp : x.isNegative = false) (e : Int) :
    x.toRat = (x.units * Nat.pow 10 (-e).toNat : Nat) / (Nat.pow 10 e.toNat <<< 1074 : Nat) * 10 ^ e := by
  have h₁ : (0 : ℚ) < (Nat.pow 10 e.toNat : Nat) := Nat.cast_pos.mpr (Nat.pow_pos (by decide))
  have h₂ : (0 : ℚ) < (Nat.pow 10 (-e).toNat : Nat) := Nat.cast_pos.mpr (Nat.pow_pos (by decide))
  rw [toRat_eq_units hp, Decimal.ten_zpow_eq, cast_shiftLeft, Nat.cast_mul]
  generalize ((Nat.pow 10 e.toNat : Nat) : ℚ) = p at h₁
  generalize ((Nat.pow 10 (-e).toNat : Nat) : ℚ) = r at h₂
  generalize (2 : ℚ) ^ 1074 = s
  field_simp

theorem cast_div_eq (n : Nat) {d : Nat} (hd : 0 < d) :
    (n / d : ℚ) = (n / d : Nat) + (n % d : Nat) / d ∧ 0 ≤ ((n % d : Nat) / d : ℚ) ∧ ((n % d : Nat) / d : ℚ) < 1 ∧
      (d ≤ 2 * (n % d) ↔ 1 ≤ 2 * ((n % d : Nat) / d : ℚ)) := by
  have hd' : (0 : ℚ) < d := Nat.cast_pos.mpr hd
  refine ⟨?_, by positivity, (div_lt_one hd').mpr (Nat.cast_lt.mpr (Nat.mod_lt n hd)), ?_⟩
  · rw [eq_comm, ← Nat.cast_inj (R := ℚ).mpr (Nat.div_add_mod n d)]
    push_cast
    field_simp
  · rw [mul_div, le_div_iff₀ hd', one_mul, ← Nat.cast_le (α := ℚ)]
    push_cast
    rfl

/-- The number stands between its neighbours on a grid, and the nearer one is tried first. -/
theorem exists_neighbours (hp : x.isNegative = false) (e : Int) : ∃ b : Nat,
    (⟨b, e⟩ : Decimal).toRat ≤ x.toRat ∧ x.toRat < (⟨b + 1, e⟩ : Decimal).toRat ∧
    (x.neighbours e = [⟨b, e⟩, ⟨b + 1, e⟩] ∧
        2 * x.toRat < (⟨b, e⟩ : Decimal).toRat + (⟨b + 1, e⟩ : Decimal).toRat ∨
      x.neighbours e = [⟨b + 1, e⟩, ⟨b, e⟩] ∧
        (⟨b, e⟩ : Decimal).toRat + (⟨b + 1, e⟩ : Decimal).toRat ≤ 2 * x.toRat) := by
  have hg := Decimal.ten_zpow_pos e
  have hx := toRat_eq_steps hp e
  have hd : ∀ k, 0 < Nat.pow 10 e.toNat <<< k := fun k => by
    rw [Nat.shiftLeft_eq]
    exact Nat.mul_pos (Nat.pow_pos (by decide)) (Nat.two_pow_pos k)
  have hd := hd 1074
  unfold neighbours
  dsimp only
  generalize x.units * Nat.pow 10 (-e).toNat = n at hx
  generalize Nat.pow 10 e.toNat <<< 1074 = d at hx hd
  obtain ⟨hn, h₀, h₁, hh⟩ := cast_div_eq n hd
  rw [hn] at hx
  -- the part of a step that the number is above its lower neighbour
  generalize ((n % d : Nat) / d : ℚ) = t at hx h₀ h₁ hh
  rw [hx]
  unfold Decimal.toRat
  push_cast
  refine ⟨n / d, ?_, ?_, ?_⟩
  · exact mul_le_mul_of_nonneg_right (by linarith) hg.le
  · exact mul_lt_mul_of_pos_right (by linarith) hg
  · split
    · rename_i h
      have := mul_le_mul_of_nonneg_right (hh.mp h) hg.le
      exact .inr ⟨rfl, by linarith⟩
    · rename_i h
      have := mul_lt_mul_of_pos_right (not_le.mp (hh.not.mp h)) hg
      exact .inl ⟨rfl, by linarith⟩

theorem mem_neighbours (hp : x.isNegative = false) (h : f ∈ x.neighbours e) :
    f.exponent = e ∧ f.toRat ≤ x.toRat + 10 ^ e := by
  obtain ⟨b, hb, -, hn⟩ := exists_neighbours hp e
  have hf : f = ⟨b, e⟩ ∨ f = ⟨b + 1, e⟩ := by
    rcases hn with ⟨hn, -⟩ | ⟨hn, -⟩
    · exact List.mem_pair.mp (hn ▸ h)
    · exact (List.mem_pair.mp (hn ▸ h)).symm
  have hg := Decimal.ten_zpow_pos e
  rcases hf with rfl | rfl
  · exact ⟨rfl, by linarith⟩
  · rw [Decimal.toRat_succ]
    exact ⟨rfl, by linarith⟩

/-- The decimal that is found on a grid. -/
def onGrid (x : Binary64) (e : Int) : Option Decimal := (x.neighbours e).find? fun m => m.value = x

theorem onGrid_some (h : x.onGrid e = some f) : f.value = x ∧ f ∈ x.neighbours e := by
  unfold onGrid at h
  have hv := List.find?_some h
  exact ⟨of_decide_eq_true hv, List.mem_of_find?_eq_some h⟩

theorem exists_find?_pair {p : Decimal → Bool} {a b : Decimal} {P : Decimal → Prop} (ha : p a = true → P a)
    (hb : p a = false → p b = true ∧ P b) : ∃ f, [a, b].find? p = some f ∧ P f := by
  cases h : p a with
  | true => exact ⟨a, List.find?_cons_of_pos h, ha h⟩
  | false =>
    obtain ⟨hb, hP⟩ := hb h
    refine ⟨b, ?_, hP⟩
    rw [List.find?_cons_of_neg (by simp [h]), List.find?_cons_of_pos hb]

/-- Nothing on a grid is missed, and what is found there is the nearest. -/
theorem onGrid_spec (hp : x.isNegative = false) (hf : x.IsFinite) (hm : m.value = x) (he : e ≤ m.exponent) :
    ∃ f, x.onGrid e = some f ∧ Nearer x.toRat f.toRat m.toRat := by
  obtain ⟨b, hb, ha, hn⟩ := exists_neighbours hp e
  have hx := value_exact hp hf
  have hv := toRat_exact hp
  have hl : m.toRat ≤ (⟨b, e⟩ : Decimal).toRat → (⟨b, e⟩ : Decimal).value = x := fun h =>
    Decimal.value_of_between hm hx h (hb.trans_eq hv.symm)
  have hr : (⟨b + 1, e⟩ : Decimal).toRat ≤ m.toRat → (⟨b + 1, e⟩ : Decimal).value = x := fun h =>
    Decimal.value_of_between hx hm (hv.trans_le ha.le) h
  unfold onGrid
  rcases hn with ⟨hn, hq⟩ | ⟨hn, hq⟩
  · rw [hn]
    refine exists_find?_pair (fun _ => ?_) fun h => ?_
    · rcases Decimal.grid_apart b he with h | h
      · exact nearer_of_le h (by linarith)
      · exact nearer_of_ge (by linarith) (by linarith)
    · have ham := (Decimal.grid_apart b he).resolve_left fun hm => of_decide_eq_false h (hl hm)
      exact ⟨decide_eq_true (hr ham), nearer_of_ge ham (by linarith)⟩
  · rw [hn]
    refine exists_find?_pair (fun _ => ?_) fun h => ?_
    · rcases Decimal.grid_apart b he with h | h
      · exact nearer_of_le (by linarith) (by linarith)
      · exact nearer_of_ge h (by linarith)
    · have hmb := (Decimal.grid_apart b he).resolve_right fun hm => of_decide_eq_false h (hr hm)
      exact ⟨decide_eq_true (hl hmb), nearer_of_le hmb (by linarith)⟩

end Binary64
end LoxLex
