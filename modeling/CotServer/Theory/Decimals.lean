import Mathlib.Algebra.Order.Field.Rat
import Mathlib.Algebra.Order.BigOperators.Group.List
import Mathlib.Algebra.Order.Ring.Rat
import Mathlib.Data.Nat.ModEq
import Mathlib.Data.Rat.Floor
import Mathlib.Tactic.FieldSimp
import Mathlib.Tactic.Positivity
import Mathlib.Tactic.Ring

/-!
# Fixed-point amounts

An amount with `d` decimals is a natural number that counts units of `10⁻ᵈ`; `value d` is the
rational number it stands for. `rescale` goes from one number of decimals to another, by a
multiplication or by a division that truncates, so it never gains value.
-/

namespace CotServer.Decimals

/-- The rational number that `amount` with `d` decimals stands for. -/
def value (d amount : Nat) : ℚ := amount / 10 ^ d

/-- Multiplies or truncates by the power of ten between the two numbers of decimals. -/
def rescale (d d' amount : Nat) : Nat :=
  if d ≤ d' then amount * 10 ^ (d' - d) else amount / 10 ^ (d - d')

theorem value_mono {d a b : Nat} (h : a ≤ b) : value d a ≤ value d b := by
  have hcast : (a : ℚ) ≤ b := by exact_mod_cast h
  unfold value
  gcongr

theorem value_mul_pow (d k amount : Nat) : value (d + k) (amount * 10 ^ k) = value d amount := by
  unfold value
  push_cast
  rw [pow_add]
  field_simp

theorem value_add (d a b : Nat) : value d (a + b) = value d a + value d b := by
  unfold value
  push_cast
  ring

theorem value_sum (d : Nat) (amounts : List Nat) :
    value d amounts.sum = (amounts.map (value d)).sum := by
  induction amounts with
  | nil => simp [value]
  | cons a amounts ih => rw [List.sum_cons, value_add, ih, List.map_cons, List.sum_cons]

/-- Rescaling never gains value. -/
theorem value_rescale_le (d d' amount : Nat) : value d' (rescale d d' amount) ≤ value d amount := by
  unfold rescale
  split
  · next h =>
    obtain ⟨k, rfl⟩ := Nat.exists_eq_add_of_le h
    rw [Nat.add_sub_cancel_left, value_mul_pow]
  · next h =>
    obtain ⟨k, rfl⟩ := Nat.exists_eq_add_of_le (Nat.le_of_not_le h)
    rw [Nat.add_sub_cancel_left, ← value_mul_pow d' k]
    exact value_mono (Nat.div_mul_le_self amount (10 ^ k))

/-- The amounts that are not truncated to nothing. -/
theorem rescale_pos_iff {d d' amount : Nat} : 0 < rescale d d' amount ↔ 10 ^ (d - d') ≤ amount := by
  unfold rescale
  split
  · next h =>
    rw [Nat.sub_eq_zero_of_le h, pow_zero, Nat.mul_pos_iff_of_pos_right (by positivity)]
    exact Nat.succ_le_iff.symm
  · next h => exact Nat.div_pos_iff.trans (and_iff_right (by positivity))

theorem rescale_lt_iff {d d' amount n : Nat} :
    rescale d d' amount < n ↔ amount * 10 ^ (d' - d) < n * 10 ^ (d - d') := by
  unfold rescale
  split
  · next h => rw [Nat.sub_eq_zero_of_le h, pow_zero, Nat.mul_one]
  · next h =>
    rw [Nat.sub_eq_zero_of_le (Nat.le_of_not_le h), pow_zero, Nat.mul_one]
    exact Nat.div_lt_iff_lt_mul (by positivity)

theorem rescale_mono {d d' a b : Nat} (h : a ≤ b) : rescale d d' a ≤ rescale d d' b := by
  unfold rescale
  split
  · exact Nat.mul_le_mul_right _ h
  · exact Nat.div_le_div_right h

/-- What is truncated from two amounts is not paid twice. -/
theorem rescale_add_le (d d' a b : Nat) :
    rescale d d' a + rescale d d' b ≤ rescale d d' (a + b) := by
  unfold rescale
  split
  · rw [Nat.add_mul]
  · exact Nat.div_add_div_le_add_div

theorem sum_rescale_le (d d' : Nat) (amounts : List Nat) :
    (amounts.map (rescale d d')).sum ≤ rescale d d' amounts.sum := by
  induction amounts with
  | nil => simp
  | cons a amounts ih =>
    have hadd := rescale_add_le d d' a amounts.sum
    rw [List.map_cons, List.sum_cons, List.sum_cons]
    omega

/-- Division that truncates rounds a quotient that is not negative down. -/
theorem tdiv_eq_floor {a b : Int} (h : 0 ≤ (a : ℚ) / b) : a.tdiv b = ⌊(a : ℚ) / b⌋ := by
  have hfloor : ∀ m n : Nat, (m : Int).tdiv n = ⌊((m : Int) : ℚ) / (n : Int)⌋ := by
    intro m n
    rw [Int.cast_natCast n, Rat.floor_intCast_div_natCast, Int.tdiv_eq_ediv_of_nonneg (by omega)]
  rcases div_nonneg_iff.1 h with ⟨ha, hb⟩ | ⟨ha, hb⟩
  · obtain ⟨m, rfl⟩ := Int.eq_ofNat_of_zero_le (Int.cast_nonneg_iff.1 ha)
    obtain ⟨n, rfl⟩ := Int.eq_ofNat_of_zero_le (Int.cast_nonneg_iff.1 hb)
    exact hfloor m n
  · obtain ⟨m, rfl⟩ := Int.exists_eq_neg_ofNat (Int.cast_nonpos.1 ha)
    obtain ⟨n, rfl⟩ := Int.exists_eq_neg_ofNat (Int.cast_nonpos.1 hb)
    rw [Int.neg_tdiv_neg, Int.cast_neg, Int.cast_neg, neg_div_neg_eq]
    exact hfloor m n

/-- Two truncations of amounts that are not negative lose at most one unit. -/
theorem tdiv_add_le {a b d : Int} (ha : 0 ≤ a) (hb : 0 ≤ b) (hd : 0 ≤ d) :
    (a + b).tdiv d ≤ a.tdiv d + b.tdiv d + 1 := by
  obtain ⟨m, rfl⟩ := Int.eq_ofNat_of_zero_le ha
  obtain ⟨n, rfl⟩ := Int.eq_ofNat_of_zero_le hb
  obtain ⟨k, rfl⟩ := Int.eq_ofNat_of_zero_le hd
  rw [← Int.natCast_add, ← Int.ofNat_tdiv, ← Int.ofNat_tdiv, ← Int.ofNat_tdiv]
  exact_mod_cast Nat.add_div_le_div_add_div_add_one m n k

end CotServer.Decimals
