import Milp.Double.Decimal
import Mathlib.Algebra.Order.Field.Power
import Mathlib.Algebra.Order.Field.Rat
import Mathlib.Data.Rat.Cast.Order
import Mathlib.Tactic.FieldSimp
import Mathlib.Tactic.Linarith
import Mathlib.Tactic.Positivity
import Mathlib.Tactic.Ring
set_option autoImplicit false

/-! # The nearest decimal of a number of digits

The leading exponent of a fraction is found from the binary lengths of its parts: two to the power of
their difference is near the fraction, and the three exponents that are tried are around that power
(`tenPow_leadingExponent`). The fraction in units of the last digit is then rounded to a whole number,
which makes the decimal of the given number of digits that is nearest to it (`significant_rounds`). -/

namespace Milp.Decimal

/-- The number that a decimal stands for. -/
def value (d : Decimal) : ℚ := d.digits * 10 ^ d.exponent

/-- A positive number rounded to a number of significant digits: the multiple of the unit of its last
digit that is nearest to it, an even one in a tie. -/
def Rounds (precision : Nat) (x y : ℚ) : Prop :=
  ∃ (e : ℤ) (m : Nat), 10 ^ (e + precision - 1) ≤ x ∧ x < 10 ^ (e + precision) ∧ y = m * 10 ^ e ∧
    |y - x| ≤ 10 ^ e / 2 ∧ (|y - x| = 10 ^ e / 2 → Even m)

/-- A positive number is not rounded to zero. -/
theorem Rounds.pos {precision : Nat} {x y : ℚ} (hp : 0 < precision) (h : Rounds precision x y) :
    0 < y := by
  obtain ⟨e, m, hle, -, -, hnear, -⟩ := h
  have hunit : (0 : ℚ) < 10 ^ e := by positivity
  have hlead : (10 : ℚ) ^ e ≤ 10 ^ (e + precision - 1) :=
    zpow_le_zpow_right₀ (by norm_num) (by omega)
  have := (abs_le.1 hnear).1
  linarith

/-! ## Powers -/

theorem power_eq (b e : Nat) : power b e = b ^ e := rfl

theorem tenPow_cast (e : ℤ) : ((tenPow e).1 : ℚ) / (tenPow e).2 = 10 ^ e := by
  rw [tenPow]
  split
  · rename_i h
    have he : e = -((-e).toNat : ℤ) := by omega
    conv_rhs => rw [he, zpow_neg, zpow_natCast]
    rw [power_eq]
    push_cast
    exact one_div _
  · rename_i h
    have he : e = (e.toNat : ℤ) := by omega
    conv_rhs => rw [he, zpow_natCast]
    rw [power_eq]
    push_cast
    exact div_one _

theorem tenPow_pos (e : ℤ) : 0 < (tenPow e).1 ∧ 0 < (tenPow e).2 := by
  rw [tenPow]
  split <;> exact ⟨by simp [power_eq], by simp [power_eq]⟩

theorem tenPowLe_iff {e : ℤ} {n d : Nat} (hd : 0 < d) :
    tenPowLe e n d = true ↔ (10 : ℚ) ^ e ≤ n / d := by
  obtain ⟨ha, hb⟩ := tenPow_pos e
  rw [← tenPow_cast, div_le_div_iff₀ (by exact_mod_cast hb) (by exact_mod_cast hd)]
  show decide ((tenPow e).1 * d ≤ n * (tenPow e).2) = true ↔ _
  rw [decide_eq_true_iff]
  exact_mod_cast Iff.rfl

theorem inUnits_cast (n d : Nat) (e : ℤ) :
    ((inUnits n d e).1 : ℚ) / (inUnits n d e).2 = n / d / 10 ^ e := by
  rw [← tenPow_cast]
  show ((n * (tenPow e).2 : Nat) : ℚ) / (d * (tenPow e).1 : Nat) = _
  push_cast
  rw [div_div_div_eq]

/-! ## The leading exponent -/

/-- A power of ten is at most a power of two if its exponent is small enough; the two conditions are
for positive and for negative exponents, `10 ^ 59` being just below `2 ^ 196`, and `10 ^ 28` just above
`2 ^ 93`. -/
theorem tenPow_le_twoPow {e k : ℤ} (hpos : 196 * e ≤ 59 * k) (hneg : 93 * e ≤ 28 * k) :
    (10 : ℚ) ^ e ≤ 2 ^ k := by
  rcases le_total 0 k with hk | hk
  · refine le_of_pow_le_pow_left₀ (n := 196) (by decide) (by positivity) ?_
    calc ((10 : ℚ) ^ e) ^ 196 = 10 ^ (196 * e) := by rw [mul_comm, zpow_mul]; rfl
      _ ≤ 10 ^ (59 * k) := zpow_le_zpow_right₀ (by norm_num) hpos
      _ = (10 ^ 59) ^ k := by rw [zpow_mul]; rfl
      _ ≤ (2 ^ 196) ^ k := zpow_le_zpow_left₀ hk (by positivity) (by norm_num)
      _ = (2 ^ k) ^ 196 := by rw [← zpow_natCast, ← zpow_natCast, ← zpow_mul, ← zpow_mul, mul_comm]
  · refine le_of_pow_le_pow_left₀ (n := 93) (by decide) (by positivity) ?_
    calc ((10 : ℚ) ^ e) ^ 93 = 10 ^ (93 * e) := by rw [mul_comm, zpow_mul]; rfl
      _ ≤ 10 ^ (28 * k) := zpow_le_zpow_right₀ (by norm_num) hneg
      _ = (10 ^ 28) ^ k := by rw [zpow_mul]; rfl
      _ ≤ (2 ^ 93) ^ k := by
        have h : ((2 : ℚ) ^ 93) ^ (-k) ≤ (10 ^ 28) ^ (-k) :=
          zpow_le_zpow_left₀ (by omega) (by norm_num) (by norm_num)
        rw [zpow_neg, zpow_neg] at h
        exact (inv_le_inv₀ (by positivity) (by positivity)).1 h
      _ = (2 ^ k) ^ 93 := by rw [← zpow_natCast, ← zpow_natCast, ← zpow_mul, ← zpow_mul, mul_comm]

theorem twoPow_le_tenPow {e k : ℤ} (hpos : 59 * k ≤ 196 * e) (hneg : 28 * k ≤ 93 * e) :
    (2 : ℚ) ^ k ≤ 10 ^ e := by
  have h := tenPow_le_twoPow (e := -e) (k := -k) (by omega) (by omega)
  rw [zpow_neg, zpow_neg] at h
  exact (inv_le_inv₀ (by positivity) (by positivity)).1 h

/-- The binary lengths of two numbers tell between which powers of two their quotient is. -/
theorem twoPow_log2 {n d : Nat} (hn : 0 < n) (hd : 0 < d) :
    (2 : ℚ) ^ ((n.log2 : ℤ) - d.log2 - 1) ≤ n / d ∧ (n / d : ℚ) ≤ 2 ^ ((n.log2 : ℤ) - d.log2 + 1) := by
  have hnl : (2 : ℚ) ^ (n.log2 : ℤ) ≤ n := by exact_mod_cast Nat.log2_self_le hn.ne'
  have hnu : (n : ℚ) ≤ 2 ^ ((n.log2 : ℤ) + 1) := by exact_mod_cast (Nat.lt_log2_self (n := n)).le
  have hdl : (2 : ℚ) ^ (d.log2 : ℤ) ≤ d := by exact_mod_cast Nat.log2_self_le hd.ne'
  have hdu : (d : ℚ) ≤ 2 ^ ((d.log2 : ℤ) + 1) := by exact_mod_cast (Nat.lt_log2_self (n := d)).le
  have hdq : (0 : ℚ) < d := by exact_mod_cast hd
  constructor
  · rw [sub_sub, zpow_sub₀ (two_ne_zero' ℚ)]
    exact div_le_div₀ (by positivity) hnl hdq hdu
  · rw [sub_add_eq_add_sub, zpow_sub₀ (two_ne_zero' ℚ)]
    exact div_le_div₀ (by positivity) hnu (by positivity) hdl

theorem find?_greatest {p : ℤ → Bool} {e : ℤ} (h : p e = true) (h' : ¬ p (e + 4) = true) :
    p (([e + 3, e + 2, e + 1].find? p).getD e) = true ∧
      ¬ p (([e + 3, e + 2, e + 1].find? p).getD e + 1) = true := by
  by_cases h3 : p (e + 3) = true
  · rw [List.find?_cons_of_pos h3, Option.getD_some, add_assoc]
    exact ⟨h3, h'⟩
  rw [List.find?_cons_of_neg h3]
  by_cases h2 : p (e + 2) = true
  · rw [List.find?_cons_of_pos h2, Option.getD_some, add_assoc]
    exact ⟨h2, h3⟩
  rw [List.find?_cons_of_neg h2]
  by_cases h1 : p (e + 1) = true
  · rw [List.find?_cons_of_pos h1, Option.getD_some, add_assoc]
    exact ⟨h1, h2⟩
  · rw [List.find?_cons_of_neg h1]
    exact ⟨h, h1⟩

/-- The leading exponent of a fraction whose parts do not differ too much in length. -/
theorem tenPow_leadingExponent {n d : Nat} (hn : 0 < n) (hd : 0 < d)
    (hlength : |(n.log2 : ℤ) - d.log2| ≤ 4000) :
    (10 : ℚ) ^ leadingExponent n d ≤ n / d ∧ (n / d : ℚ) < 10 ^ (leadingExponent n d + 1) := by
  obtain ⟨hlow, hhigh⟩ := twoPow_log2 hn hd
  rw [abs_le] at hlength
  generalize hl : (n.log2 : ℤ) - d.log2 = l at *
  -- the estimate is at most three too small
  generalize he : ((l - 1) * 30103).fdiv 100000 - 1 = e
  rw [Int.fdiv_eq_ediv_of_nonneg _ (by decide)] at he
  have hle : (10 : ℚ) ^ e ≤ n / d := (tenPow_le_twoPow (by omega) (by omega)).trans hlow
  have hlt : (n / d : ℚ) < 10 ^ (e + 4) :=
    (hhigh.trans (twoPow_le_tenPow (e := e + 3) (by omega) (by omega))).trans_lt
      (zpow_lt_zpow_right₀ (by norm_num) (by omega))
  have hfound : leadingExponent n d = ([e + 3, e + 2, e + 1].find? (tenPowLe · n d)).getD e := by
    rw [← he, ← hl, ← Int.fdiv_eq_ediv_of_nonneg _ (by decide)]
    rfl
  obtain ⟨hat, habove⟩ := find?_greatest (p := (tenPowLe · n d)) ((tenPowLe_iff hd).2 hle)
    (mt (tenPowLe_iff hd).1 (not_le.2 hlt))
  rw [hfound]
  exact ⟨(tenPowLe_iff hd).1 hat, not_le.1 (mt (tenPowLe_iff hd).2 habove)⟩

/-! ## Rounding -/

/-- Twice the distance of a rounded quotient from the quotient is at most one. -/
theorem halfEven_near (n : Nat) {d : Nat} (hd : 0 < d) :
    2 * n ≤ 2 * (d * halfEven n d) + d ∧ 2 * (d * halfEven n d) ≤ 2 * n + d ∧
      (2 * n = 2 * (d * halfEven n d) + d ∨ 2 * (d * halfEven n d) = 2 * n + d →
        halfEven n d % 2 = 0) := by
  have hn := Nat.div_add_mod n d
  rw [halfEven]
  split
  · exact ⟨by omega, by omega, fun h => by omega⟩
  split
  · have hr := Nat.mod_lt n hd
    rw [Nat.mul_add, Nat.mul_one]
    exact ⟨by omega, by omega, fun h => by omega⟩
  · -- a tie goes to the even neighbour
    rcases Nat.mod_two_eq_zero_or_one (n / d) with heven | hodd
    · rw [heven, Nat.add_zero]
      exact ⟨by omega, by omega, fun _ => heven⟩
    · rw [hodd, Nat.mul_add, Nat.mul_one]
      exact ⟨by omega, by omega, fun _ => by omega⟩

/-- A quotient rounded to a whole number is off by at most one half, and even if by one half. -/
theorem halfEven_cast (n : Nat) {d : Nat} (hd : 0 < d) :
    |(halfEven n d : ℚ) - n / d| ≤ 1 / 2 ∧
      (|(halfEven n d : ℚ) - n / d| = 1 / 2 → Even (halfEven n d)) := by
  obtain ⟨hlow, hhigh, htie⟩ := halfEven_near n hd
  generalize halfEven n d = h at *
  have hdq : (0 : ℚ) < d := by exact_mod_cast hd
  have hlowq : (2 * n : ℚ) ≤ 2 * (d * h) + d := by exact_mod_cast hlow
  have hhighq : (2 * (d * h) : ℚ) ≤ 2 * n + d := by exact_mod_cast hhigh
  have hdist : (h : ℚ) - n / d = (d * h - n) / d := by field_simp
  have hhalf : (1 / 2 : ℚ) = d / 2 / d := by field_simp
  rw [hdist, abs_div, abs_of_pos hdq, hhalf, div_le_div_iff_of_pos_right hdq,
    div_left_inj' hdq.ne']
  refine ⟨abs_le.2 ⟨by linarith, by linarith⟩, fun heq => Nat.even_iff.2 (htie ?_)⟩
  rcases abs_eq (by positivity) |>.1 heq with heq | heq
  · right
    have : (2 * (d * h) : ℚ) = 2 * n + d := by linarith
    exact_mod_cast this
  · left
    have : (2 * n : ℚ) = 2 * (d * h) + d := by linarith
    exact_mod_cast this

/-- The digits count units of the last one; rounding up to a power of ten takes one unit more. -/
theorem value_significant {precision n d : Nat} {e : ℤ} (hp : 0 < precision)
    (he : leadingExponent n d - (precision - 1 : Nat) = e) :
    (significant precision n d).value =
      (halfEven (inUnits n d e).1 (inUnits n d e).2 : ℚ) * 10 ^ e := by
  unfold significant
  simp only [he]
  obtain ⟨a, b⟩ := inUnits n d e
  dsimp only
  split
  · rename_i hm
    have hprecision : precision = precision - 1 + 1 := by omega
    rw [hm, value, power_eq, power_eq, zpow_add_one₀ (by norm_num)]
    conv_rhs => rw [hprecision]
    push_cast
    ring
  · rfl

/-- The decimal of a number of digits nearest to a fraction. -/
theorem significant_rounds {precision n d : Nat} (hp : 0 < precision) (hn : 0 < n) (hd : 0 < d)
    (hlength : |(n.log2 : ℤ) - d.log2| ≤ 4000) :
    Rounds precision (n / d) (significant precision n d).value := by
  obtain ⟨hle, hlt⟩ := tenPow_leadingExponent hn hd hlength
  generalize he : leadingExponent n d - (precision - 1 : Nat) = e
  have hlead : leadingExponent n d = e + precision - 1 := by omega
  rw [hlead] at hle hlt
  rw [sub_add_cancel] at hlt
  have hvalue := value_significant hp he
  have hden : 0 < (inUnits n d e).2 := Nat.mul_pos hd (tenPow_pos e).1
  obtain ⟨hnear, htie⟩ := halfEven_cast (inUnits n d e).1 hden
  rw [inUnits_cast] at hnear htie
  generalize halfEven (inUnits n d e).1 (inUnits n d e).2 = m at *
  have hunit : (0 : ℚ) < 10 ^ e := by positivity
  have hdist : |(m : ℚ) * 10 ^ e - n / d| = |(m : ℚ) - n / d / 10 ^ e| * 10 ^ e := by
    rw [← abs_of_pos hunit, ← abs_mul, abs_of_pos hunit, sub_mul, div_mul_cancel₀ _ hunit.ne']
  refine ⟨e, m, hle, hlt, hvalue, ?_, fun h => htie ?_⟩
  · rw [hvalue, hdist]
    linarith [mul_le_mul_of_nonneg_right hnear hunit.le]
  · rw [hvalue, hdist] at h
    exact mul_right_cancel₀ hunit.ne' (h.trans (by ring))

end Milp.Decimal
