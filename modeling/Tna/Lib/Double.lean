import Mathlib.Algebra.Order.Round
import Mathlib.Data.Int.ConditionallyCompleteOrder
import Mathlib.Data.Int.Log
import Mathlib.Data.Rat.Floor
import Mathlib.Tactic.Linarith
import Mathlib.Tactic.Ring

/-!
# Doubles

A double is a rational with 53 significant binary digits and a last place no lower than
-1074. The result of an operation on doubles is the exact one, rounded to the nearest double
and to the even one of two. Rounding keeps the order and leaves a double as it is.
-/

namespace Tna.Lib

/-- The integer nearest to a rational, the even one of two. -/
def nearest (x : ℚ) : ℤ :=
  if x - ⌊x⌋ < 1 / 2 then ⌊x⌋ else if 1 / 2 < x - ⌊x⌋ then ⌊x⌋ + 1 else if Even ⌊x⌋ then ⌊x⌋ else ⌊x⌋ + 1

/-- The exponent of the last place of the doubles around a rational. -/
def lastPlace (q : ℚ) : ℤ := max (Int.log 2 |q| - 52) (-1074)

/-- The nearest multiple of a unit of the last place. -/
def rounded (q : ℚ) : ℚ := nearest (q / 2 ^ lastPlace q) * 2 ^ lastPlace q

/-- The double nearest to a rational, unless it overflows. -/
def toDouble (q : ℚ) : Option ℚ := if |rounded q| < 2 ^ 1024 then some (rounded q) else none

example : toDouble (3 / 10) = some (5404319552844595 / 18014398509481984) := by decide +kernel

/-! ## The nearest integer -/

theorem nearest_intCast (n : ℤ) : nearest n = n := by
  unfold nearest
  rw [Int.floor_intCast, sub_self, if_pos (by norm_num)]

theorem floor_le_nearest (x : ℚ) : ⌊x⌋ ≤ nearest x := by
  unfold nearest
  split_ifs <;> omega

theorem nearest_le_floor (x : ℚ) : nearest x ≤ ⌊x⌋ + 1 := by
  unfold nearest
  split_ifs <;> omega

theorem nearest_mono : Monotone nearest := by
  intro x y h
  rcases (Int.floor_le_floor h).lt_or_eq with hlt | heq
  · calc nearest x ≤ ⌊x⌋ + 1 := nearest_le_floor x
      _ ≤ ⌊y⌋ := hlt
      _ ≤ nearest y := floor_le_nearest y
  · -- with the same floor, the fractions are in the order of the numbers
    have hfract : x - ⌊x⌋ ≤ y - ⌊y⌋ := by
      rw [heq]
      linarith
    unfold nearest
    rw [heq] at hfract ⊢
    split_ifs with hx hy hy' _ hx' hy hy' _ _ hy hy'
    all_goals first
      | omega
      | exact absurd (hfract.trans_lt ‹_›) (by assumption)
      | linarith

/-! ## Rounding -/

theorem two_zpow_pos (e : ℤ) : (0 : ℚ) < 2 ^ e := zpow_pos two_pos e

variable {k n e : ℤ} {q a b d y : ℚ}

theorem two_zpow_split (e : ℤ) (h : k ≤ e) : (2 : ℚ) ^ e = ((2 ^ (e - k).toNat : ℤ) : ℚ) * 2 ^ k := by
  have hexp : e = ((e - k).toNat : ℤ) + k := by omega
  conv_lhs => rw [hexp, zpow_add₀ two_ne_zero]
  push_cast
  rw [zpow_natCast]

/-- What is a multiple of a unit of the last place and below a rational is below what it is rounded to. -/
theorem le_rounded (h : n * 2 ^ lastPlace q ≤ q) : n * 2 ^ lastPlace q ≤ rounded q := by
  have hmono : nearest n ≤ nearest (q / 2 ^ lastPlace q) := nearest_mono ((le_div_iff₀ (two_zpow_pos _)).2 h)
  rw [nearest_intCast] at hmono
  exact mul_le_mul_of_nonneg_right (by exact_mod_cast hmono) (two_zpow_pos _).le

theorem rounded_le (h : q ≤ n * 2 ^ lastPlace q) : rounded q ≤ n * 2 ^ lastPlace q := by
  have hmono : nearest (q / 2 ^ lastPlace q) ≤ nearest n := nearest_mono ((div_le_iff₀ (two_zpow_pos _)).2 h)
  rw [nearest_intCast] at hmono
  exact mul_le_mul_of_nonneg_right (by exact_mod_cast hmono) (two_zpow_pos _).le

theorem rounded_nonneg (h : 0 ≤ q) : 0 ≤ rounded q := by
  have hle := le_rounded (q := q) (n := 0) (by simpa using h)
  simpa using hle

/-- A multiple of a unit of its last place is left as it is. -/
theorem rounded_multiple (hq : q = n * 2 ^ e) (h : lastPlace q ≤ e) : rounded q = q := by
  have hmultiple : q = ((n * 2 ^ (e - lastPlace q).toNat : ℤ) : ℚ) * 2 ^ lastPlace q := by
    refine hq.trans ?_
    rw [two_zpow_split e h, Int.cast_mul, mul_assoc]
  exact le_antisymm ((rounded_le hmultiple.le).trans_eq hmultiple.symm) (hmultiple.trans_le (le_rounded hmultiple.ge))

theorem lastPlace_mono (ha : 0 < a) (h : a ≤ b) : lastPlace a ≤ lastPlace b := by
  unfold lastPlace
  rw [abs_of_pos ha, abs_of_pos (ha.trans_le h)]
  have hlog := Int.log_mono_right (b := 2) ha h
  omega

/-- **Rounding keeps the order.** -/
theorem rounded_mono (ha : 0 ≤ a) (h : a ≤ b) : rounded a ≤ rounded b := by
  rcases ha.eq_or_lt with rfl | ha
  · have hzero : rounded 0 = 0 := rounded_multiple (n := 0) (e := lastPlace 0) (by ring) le_rfl
    exact hzero.trans_le (rounded_nonneg h)
  have hb : 0 < b := ha.trans_le h
  rcases (lastPlace_mono ha h).lt_or_eq with hlt | heq
  · -- a power of two lies between the two
    have hplace : lastPlace b = Int.log 2 b - 52 := by
      unfold lastPlace at hlt ⊢
      rw [abs_of_pos hb] at hlt ⊢
      omega
    have hlog : Int.log 2 a < Int.log 2 b := by
      unfold lastPlace at hlt
      rw [abs_of_pos ha, abs_of_pos hb] at hlt
      omega
    have hbelow : a ≤ 2 ^ Int.log 2 b := by
      have hpow := (Int.lt_zpow_succ_log_self (R := ℚ) (b := 2) (by norm_num) a).le
      have hnext : (2 : ℚ) ^ (Int.log 2 a + 1) ≤ 2 ^ Int.log 2 b := zpow_le_zpow_right₀ (by norm_num) hlog
      exact (by exact_mod_cast hpow : a ≤ 2 ^ (Int.log 2 a + 1)).trans hnext
    have habove : (2 : ℚ) ^ Int.log 2 b ≤ b := by exact_mod_cast Int.zpow_log_le_self (b := 2) (by norm_num) hb
    have hleft := two_zpow_split (Int.log 2 b) (k := lastPlace a) (by omega)
    have hright := two_zpow_split (Int.log 2 b) (k := lastPlace b) (by omega)
    calc rounded a ≤ 2 ^ Int.log 2 b := by
          rw [hleft] at hbelow ⊢
          exact rounded_le hbelow
      _ ≤ rounded b := by
          rw [hright] at habove ⊢
          exact le_rounded habove
  · have hdiv : a / 2 ^ lastPlace b ≤ b / 2 ^ lastPlace b := div_le_div_of_nonneg_right h (two_zpow_pos _).le
    unfold rounded
    rw [heq]
    exact mul_le_mul_of_nonneg_right (by exact_mod_cast nearest_mono hdiv) (two_zpow_pos _).le

theorem rounded_zpow (h : -1074 ≤ e) : rounded (2 ^ e) = 2 ^ e := by
  refine rounded_multiple (n := 1) (e := e) (by ring) ?_
  unfold lastPlace
  have hlog : Int.log 2 ((2 : ℚ) ^ e) = e := by exact_mod_cast Int.log_zpow (R := ℚ) (b := 2) (by norm_num) e
  rw [abs_of_pos (two_zpow_pos e), hlog]
  omega

/-- **What has been rounded is left as it is.** -/
theorem rounded_rounded (h : 0 ≤ q) : rounded (rounded q) = rounded q := by
  have hplace : -1074 ≤ lastPlace q := le_max_right _ _
  have hpower : ((2 ^ 53 : ℤ) : ℚ) * 2 ^ lastPlace q = 2 ^ (53 + lastPlace q) := by
    rw [zpow_add₀ two_ne_zero]
    norm_num
  have hbelow : q ≤ ((2 ^ 53 : ℤ) : ℚ) * 2 ^ lastPlace q := by
    rcases h.eq_or_lt with rfl | hpos
    · exact mul_nonneg (by norm_num) (two_zpow_pos _).le
    have hpow := (Int.lt_zpow_succ_log_self (R := ℚ) (b := 2) (by norm_num) q).le
    have hlog : Int.log 2 q + 1 ≤ 53 + lastPlace q := by
      unfold lastPlace
      rw [abs_of_pos hpos]
      omega
    calc q ≤ 2 ^ (Int.log 2 q + 1) := by exact_mod_cast hpow
      _ ≤ 2 ^ (53 + lastPlace q) := zpow_le_zpow_right₀ (by norm_num) hlog
      _ = ((2 ^ 53 : ℤ) : ℚ) * 2 ^ lastPlace q := hpower.symm
  have hle := rounded_le hbelow
  have hnonneg := rounded_nonneg h
  rcases hle.lt_or_eq with hlt | heq
  · rcases hnonneg.eq_or_lt with hzero | hpos
    · rw [← hzero]
      exact rounded_multiple (n := 0) (e := lastPlace 0) (by ring) le_rfl
    · refine rounded_multiple (n := nearest (q / 2 ^ lastPlace q)) (e := lastPlace q) rfl ?_
      have hlog : Int.log 2 (rounded q) < 53 + lastPlace q := by
        rw [hpower] at hlt
        exact (Int.lt_zpow_iff_log_lt (R := ℚ) (b := 2) (by norm_num) hpos).1 (by exact_mod_cast hlt)
      rw [lastPlace, abs_of_pos hpos]
      omega
  · rw [heq, hpower]
    exact rounded_zpow (by omega)

/-! ## Sums -/

theorem toDouble_eq_some : toDouble q = some d ↔ |rounded q| < 2 ^ 1024 ∧ rounded q = d := by
  unfold toDouble
  split_ifs with h
  · simp [h]
  · simp [h]

theorem toDouble_zero : toDouble 0 = some 0 := by decide +kernel

theorem toDouble_toDouble (hq : 0 ≤ q) (h : toDouble q = some d) : 0 ≤ d ∧ toDouble d = some d := by
  obtain ⟨hlt, rfl⟩ := toDouble_eq_some.1 h
  refine ⟨rounded_nonneg hq, toDouble_eq_some.2 ?_⟩
  rw [rounded_rounded hq]
  exact ⟨hlt, rfl⟩

theorem toDouble_mono (ha : 0 ≤ a) (h : a ≤ b) (hb : toDouble b = some y) : ∃ x, toDouble a = some x ∧ x ≤ y := by
  obtain ⟨hlt, rfl⟩ := toDouble_eq_some.1 hb
  have hle := rounded_mono ha h
  refine ⟨rounded a, toDouble_eq_some.2 ⟨?_, rfl⟩, hle⟩
  rw [abs_of_nonneg (rounded_nonneg ha)]
  exact (hle.trans (le_abs_self _)).trans_lt hlt

/-- A sum of doubles is no less than one of them, when the other is not negative. -/
theorem le_of_toDouble_add {c : ℚ} (ha : 0 ≤ a) (hdouble : toDouble a = some a) (hc : 0 ≤ c) (h : toDouble (a + c) = some y) :
    a ≤ y := by
  obtain ⟨x, hx, hxy⟩ := toDouble_mono ha (le_add_of_nonneg_right hc) h
  rw [hdouble] at hx
  cases hx
  exact hxy

/-! ## Around whole numbers -/

/-- Below `2 ^ 52` the last place is half a unit or less. -/
theorem lastPlace_le (h : |q| < 2 ^ 52) : lastPlace q ≤ -1 := by
  have hlog : Int.log 2 |q| < 52 := by
    rcases (abs_nonneg q).eq_or_lt with hzero | hpos
    · rw [← hzero, Int.log_zero_right]
      norm_num
    · exact (Int.lt_zpow_iff_log_lt (by norm_num) hpos).1 (by exact_mod_cast h)
  unfold lastPlace
  omega

theorem intCast_multiple (n : ℤ) (h : k ≤ 0) : (n : ℚ) = ((n * 2 ^ (0 - k).toNat : ℤ) : ℚ) * 2 ^ k := by
  have hsplit := two_zpow_split 0 h
  rw [zpow_zero] at hsplit
  rw [Int.cast_mul, mul_assoc, ← hsplit, mul_one]

/-- Rounding passes no whole number. -/
theorem rounded_le_intCast (hq : |q| < 2 ^ 52) (h : q ≤ n) : rounded q ≤ n := by
  have hn := intCast_multiple n ((lastPlace_le hq).trans (by norm_num))
  rw [hn] at h ⊢
  exact rounded_le h

theorem intCast_le_rounded (hq : |q| < 2 ^ 52) (h : n ≤ q) : n ≤ rounded q := by
  have hn := intCast_multiple n ((lastPlace_le hq).trans (by norm_num))
  rw [hn] at h ⊢
  exact le_rounded h

end Tna.Lib
