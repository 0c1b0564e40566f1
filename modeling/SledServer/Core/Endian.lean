import Mathlib.Data.Nat.Digits.Defs

/-!
# Integers as bytes

`little k n` are the lowest `k` bytes of `n`, the least significant one first, and `big k n` are the
same bytes the other way round.  Turning the bytes of an integer round gives another integer,
`swap`.

Nothing here mentions a particular program.
-/

namespace SledServer.Core

/-- The lowest bytes of an integer, the least significant one first. -/
def little : ℕ → ℕ → List UInt8
  | 0, _ => []
  | k + 1, n => UInt8.ofNat n :: little k (n / 256)

/-- The integer with these bytes, the least significant one first. -/
def ofLittle (bs : List UInt8) : ℕ := Nat.ofDigits 256 (bs.map UInt8.toNat)

/-- The lowest bytes of an integer, the most significant one first. -/
def big (k n : ℕ) : List UInt8 := (little k n).reverse

/-- The integer with these bytes, the most significant one first. -/
def ofBig (bs : List UInt8) : ℕ := ofLittle bs.reverse

/-- The integer with the bytes of another the other way round. -/
def swap (k n : ℕ) : ℕ := ofBig (little k n)

section Little

variable {j k m n : ℕ} {b : UInt8} {bs bs' : List UInt8}

@[simp] lemma length_little (k n : ℕ) : (little k n).length = k := by
  induction k generalizing n with
  | zero => rfl
  | succ k ih => rw [little, List.length_cons, ih]

@[simp] lemma ofLittle_nil : ofLittle [] = 0 := rfl

@[simp] lemma ofLittle_cons : ofLittle (b :: bs) = b.toNat + 256 * ofLittle bs := by
  rw [ofLittle, List.map_cons, Nat.ofDigits_cons]
  rfl

lemma ofLittle_append : ofLittle (bs ++ bs') = ofLittle bs + 256 ^ bs.length * ofLittle bs' := by
  rw [ofLittle, List.map_append, Nat.ofDigits_append, List.length_map]
  rfl

lemma ofLittle_little (k n : ℕ) : ofLittle (little k n) = n % 256 ^ k := by
  induction k generalizing n with
  | zero => simp [little, Nat.mod_one]
  | succ k ih =>
    have h8 : n % 2 ^ 8 = n % 256 := rfl
    rw [little, ofLittle_cons, ih, UInt8.toNat_ofNat', h8, pow_succ', Nat.mod_mul]

lemma little_ofLittle (bs : List UInt8) : little bs.length (ofLittle bs) = bs := by
  induction bs with
  | nil => rfl
  | cons b bs ih =>
    have hb := b.toNat_lt
    have hlow : UInt8.ofNat (b.toNat + 256 * ofLittle bs) = b := by
      rw [← UInt8.toNat_inj, UInt8.toNat_ofNat']
      omega
    have hhigh : (b.toNat + 256 * ofLittle bs) / 256 = ofLittle bs := by omega
    rw [List.length_cons, ofLittle_cons, little, hlow, hhigh, ih]

lemma little_eq_of_ofLittle (hk : bs.length = k) (hn : ofLittle bs = n) : little k n = bs := by
  subst hk hn
  exact little_ofLittle bs

lemma ofLittle_lt (bs : List UInt8) : ofLittle bs < 256 ^ bs.length := by
  have h := ofLittle_little bs.length (ofLittle bs)
  rw [little_ofLittle] at h
  rw [h]
  exact Nat.mod_lt _ (by positivity)

/-- The bytes of a large integer are those of its two parts. -/
lemma little_append (hm : m < 256 ^ j) (hn : n < 256 ^ k) :
    little (j + k) (m + 256 ^ j * n) = little j m ++ little k n := by
  refine little_eq_of_ofLittle (by simp) ?_
  rw [ofLittle_append, ofLittle_little, ofLittle_little, length_little, Nat.mod_eq_of_lt hm,
    Nat.mod_eq_of_lt hn]

end Little

section Big

variable {j k m n : ℕ}

@[simp] lemma length_big (k n : ℕ) : (big k n).length = k := by
  rw [big, List.length_reverse, length_little]

lemma ofBig_big (hn : n < 256 ^ k) : ofBig (big k n) = n := by
  rw [ofBig, big, List.reverse_reverse, ofLittle_little, Nat.mod_eq_of_lt hn]

lemma ofBig_concat (bs : List UInt8) (b : UInt8) :
    ofBig (bs ++ [b]) = ofBig bs * 256 + b.toNat := by
  simp only [ofBig, List.reverse_append, List.reverse_singleton, List.singleton_append,
    ofLittle_cons]
  omega

lemma ofBig_lt (bs : List UInt8) : ofBig bs < 256 ^ bs.length := by
  have h := ofLittle_lt bs.reverse
  rwa [List.length_reverse] at h

lemma big_append (hm : m < 256 ^ j) (hn : n < 256 ^ k) :
    big (j + k) (m + 256 ^ j * n) = big k n ++ big j m := by
  rw [big, little_append hm hn, List.reverse_append]
  rfl

lemma swap_lt (k n : ℕ) : swap k n < 256 ^ k := by
  have h := ofLittle_lt (little k n).reverse
  rwa [List.length_reverse, length_little] at h

/-- The bytes of an integer that has been turned round. -/
lemma little_swap (k n : ℕ) : little k (swap k n) = big k n :=
  little_eq_of_ofLittle (length_big k n) rfl

end Big

end SledServer.Core
