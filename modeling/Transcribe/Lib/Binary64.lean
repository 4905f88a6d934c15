import Mathlib.Data.Nat.Log
import Mathlib.Tactic.Linarith
import Mathlib.Tactic.Ring

/-!
# Natural numbers as IEEE 754 doubles

`ofNat n` is the double nearest to the natural number `n` (53-bit significand, ties
to even), as a natural number: the value a language whose only number type is the
double has after reading `n` from decimal text. `top` stands for infinity.

* `ofNat_of_le`: exact up to `2 ^ 53`.
* `ofNat_mono`: rounding is monotone.
* `ofNat_saturates`: `2 ^ 53 + 1` rounds to `2 ^ 53`, so adding one has no effect there.
-/

namespace Binary64

/-- The number of low bits of `n` that do not fit into a 53-bit significand. -/
def shift (n : ℕ) : ℕ := Nat.log 2 n - 52

/-- The quotient `q` with remainder `r` out of `u`, rounded to nearest, ties to even. -/
def halfEven (q r u : ℕ) : ℕ := if 2 * r < u then q else if u < 2 * r then q + 1 else q + q % 2

/-- `n` rounded to a 53-bit significand. -/
def roundNat (n : ℕ) : ℕ := halfEven (n / 2 ^ shift n) (n % 2 ^ shift n) (2 ^ shift n) * 2 ^ shift n

/-- The first power of two out of range (`2 ^ 1024`), standing for infinity. -/
def top : ℕ := (2 ^ 256) ^ 4

/-- The double nearest to `n`. -/
def ofNat (n : ℕ) : ℕ := min (roundNat n) top

theorem pow_le_top : 2 ^ 53 ≤ top := by norm_num [top]

theorem halfEven_le (q r u : ℕ) : halfEven q r u ≤ q + 1 := by
  unfold halfEven; split_ifs <;> omega

theorem le_halfEven (q r u : ℕ) : q ≤ halfEven q r u := by
  unfold halfEven; split_ifs <;> omega

theorem halfEven_mono {q q' r r' u : ℕ} (h : u * q + r ≤ u * q' + r') (hr' : r' < u) :
    halfEven q r u ≤ halfEven q' r' u := by
  rcases lt_trichotomy q q' with hq | rfl | hq
  · exact (halfEven_le q r u).trans (le_trans hq (le_halfEven q' r' u))
  · have : r ≤ r' := by omega
    unfold halfEven; split_ifs <;> omega
  · have : u * (q' + 1) ≤ u * q := Nat.mul_le_mul_left u hq
    rw [Nat.mul_add] at this
    omega

theorem shift_of_lt {n : ℕ} (h : n < 2 ^ 53) : shift n = 0 := by
  unfold shift
  have := Nat.log_mono_right (b := 2) (Nat.le_sub_one_of_lt h)
  have h52 : Nat.log 2 (2 ^ 53 - 1) = 52 := by
    rw [Nat.log_eq_iff (Or.inl (by norm_num))]; norm_num
  omega

theorem roundNat_of_lt {n : ℕ} (h : n < 2 ^ 53) : roundNat n = n := by
  simp [roundNat, shift_of_lt h, halfEven, Nat.mod_one]

/-- Rounding does not go below a power of two. -/
theorem pow_le_roundNat {n k : ℕ} (h : 2 ^ k ≤ n) : 2 ^ k ≤ roundNat n := by
  have hk : k ≤ Nat.log 2 n := Nat.le_log_of_pow_le (by norm_num) h
  have hn : 2 ^ Nat.log 2 n ≤ n := Nat.pow_log_le_self 2 (by have := Nat.two_pow_pos k; omega)
  have hs : shift n ≤ Nat.log 2 n := by unfold shift; omega
  have hq : 2 ^ (Nat.log 2 n - shift n) ≤ n / 2 ^ shift n := by
    rw [Nat.le_div_iff_mul_le (Nat.two_pow_pos _), ← pow_add, Nat.sub_add_cancel hs]; exact hn
  calc 2 ^ k ≤ 2 ^ Nat.log 2 n := Nat.pow_le_pow_right (by norm_num) hk
    _ = 2 ^ (Nat.log 2 n - shift n) * 2 ^ shift n := by rw [← pow_add, Nat.sub_add_cancel hs]
    _ ≤ roundNat n := Nat.mul_le_mul_right _ (hq.trans (le_halfEven _ _ _))

/-- Rounding does not pass a power of two. -/
theorem roundNat_le_pow {n k : ℕ} (h : n ≤ 2 ^ k) : roundNat n ≤ 2 ^ k := by
  rcases lt_or_ge n (2 ^ 53) with hn | hn
  · rw [roundNat_of_lt hn]; exact h
  have hl : 53 ≤ Nat.log 2 n := Nat.le_log_of_pow_le (by norm_num) hn
  have hpow : 2 ^ Nat.log 2 n ≤ n := Nat.pow_log_le_self 2 (by omega)
  have hlk : Nat.log 2 n ≤ k := by
    have := Nat.log_mono_right (b := 2) h
    rwa [Nat.log_pow (by norm_num)] at this
  have hsk : shift n ≤ k := by unfold shift; omega
  have hsplit : (2 : ℕ) ^ k = 2 ^ (k - shift n) * 2 ^ shift n := by
    rw [← pow_add, Nat.sub_add_cancel hsk]
  rcases Nat.eq_or_lt_of_le h with rfl | hlt
  · -- a power of two is exact
    have hd : 2 ^ k / 2 ^ shift (2 ^ k) = 2 ^ (k - shift (2 ^ k)) :=
      Nat.div_eq_of_eq_mul_left (Nat.two_pow_pos _) hsplit
    have hm : 2 ^ k % 2 ^ shift (2 ^ k) = 0 :=
      Nat.mod_eq_zero_of_dvd (pow_dvd_pow 2 hsk)
    unfold roundNat
    rw [hd, hm, halfEven, if_pos (by simp), ← hsplit]
  · have hq : n / 2 ^ shift n < 2 ^ (k - shift n) := by
      rw [Nat.div_lt_iff_lt_mul (Nat.two_pow_pos _), ← hsplit]; exact hlt
    rw [hsplit]
    exact Nat.mul_le_mul_right _ ((halfEven_le _ _ _).trans hq)

theorem roundNat_mono {a b : ℕ} (h : a ≤ b) : roundNat a ≤ roundNat b := by
  have hlog := Nat.log_mono_right (b := 2) h
  rcases Nat.eq_or_lt_of_le hlog with heq | hlt
  · have hs : shift a = shift b := by unfold shift; rw [heq]
    unfold roundNat
    rw [hs]
    refine Nat.mul_le_mul_right _ (halfEven_mono ?_ (Nat.mod_lt _ (Nat.two_pow_pos _)))
    rw [Nat.div_add_mod, Nat.div_add_mod]; exact h
  · -- a power of two lies between
    have hb : 2 ^ Nat.log 2 b ≤ b := Nat.pow_log_le_self 2 (by
      rintro rfl; simp at hlt)
    have ha : a ≤ 2 ^ Nat.log 2 b := (Nat.lt_pow_of_log_lt (by norm_num) hlt).le
    exact (roundNat_le_pow ha).trans (pow_le_roundNat hb)

theorem ofNat_mono {a b : ℕ} (h : a ≤ b) : ofNat a ≤ ofNat b :=
  min_le_min_right _ (roundNat_mono h)

/-- **Exact up to `2 ^ 53`.** -/
theorem ofNat_of_le {n : ℕ} (h : n ≤ 2 ^ 53) : ofNat n = n := by
  have hr : roundNat n = n := by
    rcases Nat.eq_or_lt_of_le h with rfl | hlt
    · exact le_antisymm (roundNat_le_pow le_rfl) (pow_le_roundNat le_rfl)
    · exact roundNat_of_lt hlt
  rw [ofNat, hr, min_eq_left (h.trans pow_le_top)]

theorem le_ofNat {n : ℕ} (h : 2 ^ 53 ≤ n) : 2 ^ 53 ≤ ofNat n :=
  (ofNat_of_le le_rfl).symm.le.trans (ofNat_mono h)

/-- **Adding one saturates at `2 ^ 53`.** -/
theorem ofNat_saturates : ofNat (2 ^ 53 + 1) = 2 ^ 53 := by
  have hs : shift (2 ^ 53 + 1) = 1 := by
    unfold shift
    rw [show Nat.log 2 (2 ^ 53 + 1) = 53 by rw [Nat.log_eq_iff (Or.inl (by norm_num))]; norm_num]
  have hr : roundNat (2 ^ 53 + 1) = 2 ^ 53 := by
    unfold roundNat; rw [hs]; norm_num [halfEven]
  rw [ofNat, hr]
  exact min_eq_left pow_le_top

end Binary64
