import Mathlib.Data.Rat.Floor
import Mathlib.Tactic.Linarith

/-!
# Truncation towards zero

Converting a number to an integer type drops the part behind the point (`trunc`).  In between the
bounds of the type a bound of the result is a bound of the number: `trunc_lt` and `neg_lt_trunc`.
The result, as 32 bits, is read back with `signed`.  Division of integers drops the same part
(`tdiv_sub_le`).

Nothing here mentions a particular program.
-/

namespace SledServer.Core

/-- The integer part of a number, towards zero. -/
def trunc (x : ℚ) : ℤ := x.num.tdiv x.den

/-- 32 bits, read as a signed integer. -/
def signed (v : UInt32) : ℤ := v.toInt32.toInt

variable {x : ℚ} {n : ℤ}

lemma trunc_of_nonneg (h : 0 ≤ x) : trunc x = ⌊x⌋ := by
  rw [trunc, Int.tdiv_eq_ediv_of_nonneg (Rat.num_nonneg.mpr h), Rat.floor_def']

lemma trunc_neg (x : ℚ) : trunc (-x) = -trunc x := by
  rw [trunc, trunc, Rat.num_neg_eq_neg_num, Rat.den_neg_eq_den, Int.neg_tdiv]

lemma trunc_nonpos (h : x ≤ 0) : trunc x ≤ 0 := by
  have hneg : 0 ≤ trunc (-x) := by
    rw [trunc_of_nonneg (by linarith)]
    exact Int.floor_nonneg.mpr (by linarith)
  rw [trunc_neg] at hneg
  omega

lemma trunc_lt (hn : 0 < n) : trunc x < n ↔ x < n := by
  rcases le_or_gt 0 x with h | h
  · rw [trunc_of_nonneg h, Int.floor_lt]
  · have hpos : (0 : ℚ) < n := by exact_mod_cast hn
    exact iff_of_true (lt_of_le_of_lt (trunc_nonpos h.le) hn) (h.trans hpos)

lemma neg_lt_trunc (hn : 0 < n) : -n < trunc x ↔ -(n : ℚ) < x := by
  have h := trunc_lt (x := -x) hn
  rw [trunc_neg] at h
  rw [neg_lt, h, neg_lt]

lemma le_trunc (hn : 0 < n) : n ≤ trunc x ↔ (n : ℚ) ≤ x := by
  rw [← not_lt, trunc_lt hn, not_lt]

lemma trunc_nonneg : 0 ≤ trunc x ↔ -1 < x := by
  have h : -1 < trunc x ↔ -((1 : ℤ) : ℚ) < x := neg_lt_trunc one_pos
  rw [Int.cast_one] at h
  rw [← h]
  omega

/-- Truncation drops less than one. -/
lemma trunc_le (h : 0 ≤ x) : (trunc x : ℚ) ≤ x ∧ x < trunc x + 1 := by
  rw [trunc_of_nonneg h]
  exact ⟨Int.floor_le x, Int.lt_floor_add_one x⟩

lemma toInt32_ofInt (n : ℤ) : (UInt32.ofInt n).toInt32 = Int32.ofInt n := by
  apply Int32.toBitVec.inj
  rw [UInt32.toBitVec_toInt32, Int32.toBitVec_ofInt]
  apply BitVec.eq_of_toNat_eq
  have hmod := Int.emod_lt_of_pos n (show (0 : ℤ) < 2 ^ 32 by decide)
  have hlt : (n % 2 ^ 32).toNat < 2 ^ 32 := by omega
  rw [BitVec.toNat_ofInt, UInt32.toNat_toBitVec, UInt32.ofInt, UInt32.toNat_ofNat_of_lt' hlt]
  rfl

lemma signed_ofInt (hn : -2 ^ 31 ≤ n) (hn' : n < 2 ^ 31) : signed (UInt32.ofInt n) = n := by
  rw [signed, toInt32_ofInt, Int32.toInt_ofInt_of_le hn hn']

lemma ofInt_signed (v : UInt32) : UInt32.ofInt (signed v) = v := by
  rw [← UInt32.toUInt32_toInt32 (UInt32.ofInt (signed v)), toInt32_ofInt, signed, Int32.ofInt_toInt,
    UInt32.toUInt32_toInt32]

lemma signed_range (v : UInt32) : -2 ^ 31 ≤ signed v ∧ signed v < 2 ^ 31 :=
  ⟨v.toInt32.le_toInt, v.toInt32.toInt_lt⟩

/-- Counting down by one, unless it wraps. -/
lemma signed_sub_one {v : UInt32} (h : -2 ^ 31 < signed v) : signed (v - 1) = signed v - 1 := by
  have hrange := signed_range v
  have hsub : v - 1 = UInt32.ofInt (signed v - 1) := by
    rw [Int.sub_eq_add_neg, UInt32.ofInt_add, ofInt_signed, UInt32.ofInt_neg_one,
      UInt32.sub_eq_add_neg]
  rw [hsub, signed_ofInt (by omega) (by omega)]

/-- The part of a number that a truncated division drops. -/
lemma tdiv_part {m : ℤ} (hm : 0 < m) (x : ℤ) :
    (0 ≤ x → m * x.tdiv m ≤ x ∧ x < m * x.tdiv m + m ∧ 0 ≤ x.tdiv m) ∧
    (x ≤ 0 → x ≤ m * x.tdiv m ∧ m * x.tdiv m - m < x ∧ x.tdiv m ≤ 0) := by
  have hx := Int.mul_tdiv_add_tmod x m
  constructor
  · intro h
    have hlt := Int.tmod_lt_of_pos x hm
    have hnonneg := Int.tmod_nonneg m h
    exact ⟨by omega, by omega, Int.tdiv_nonneg h hm.le⟩
  · intro h
    have hlt := Int.tmod_lt_of_pos (-x) hm
    have hnonneg := Int.tmod_nonneg m (show 0 ≤ -x by omega)
    rw [Int.neg_tmod] at hlt hnonneg
    refine ⟨by omega, by omega, ?_⟩
    have hneg := Int.tdiv_nonneg (show 0 ≤ -x by omega) hm.le
    rw [Int.neg_tdiv] at hneg
    omega

/-- Truncation brings two quotients no further apart than to the next integer. -/
lemma tdiv_sub_le {m : ℤ} (hm : 0 < m) (x y : ℤ) :
    |x.tdiv m - y.tdiv m| ≤ (|x - y| + (m - 1)) / m := by
  wlog hle : y.tdiv m ≤ x.tdiv m generalizing x y
  · rw [abs_sub_comm, abs_sub_comm x]
    exact this y x (by omega)
  have hself := le_abs_self (x - y)
  have habs := abs_nonneg (x - y)
  rw [abs_of_nonneg (by omega), Int.le_ediv_iff_mul_le hm, Int.sub_mul, Int.mul_comm _ m,
    Int.mul_comm _ m]
  obtain ⟨hxpos, hxneg⟩ := tdiv_part hm x
  obtain ⟨hypos, hyneg⟩ := tdiv_part hm y
  rcases le_total 0 x with hx | hx <;> rcases le_total 0 y with hy | hy
  · obtain ⟨h, -⟩ := hxpos hx
    obtain ⟨-, h', -⟩ := hypos hy
    omega
  · obtain ⟨h, -⟩ := hxpos hx
    obtain ⟨h', -⟩ := hyneg hy
    omega
  · -- Both quotients are zero.
    obtain ⟨-, -, h⟩ := hxneg hx
    obtain ⟨-, -, h'⟩ := hypos hy
    have heq : x.tdiv m = y.tdiv m := by omega
    rw [heq]
    omega
  · obtain ⟨-, h, -⟩ := hxneg hx
    obtain ⟨h', -⟩ := hyneg hy
    omega

end SledServer.Core
