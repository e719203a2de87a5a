import ChannelGateway.Number.Decimal
import Mathlib.Algebra.Order.Field.Power
import Mathlib.Data.Rat.Cast.Order
import Mathlib.Tactic.FieldSimp
import Mathlib.Tactic.Linarith
import Mathlib.Tactic.NormNum
import Mathlib.Tactic.Positivity
import Mathlib.Tactic.Ring
/-!
# Rounding to the nearest double

A decimal is read into the double that is nearest to it; of two that are equally near, the one with
the even significand.  At most one value is nearest in this sense, so rounding is determined by the
number, and a number that is the value of a double is kept.
-/

namespace ChannelGateway

/-! ## Signs and powers -/

def signed {R : Type} [Neg R] (negative : Bool) (r : R) : R := if negative then -r else r

theorem cast_signed (negative : Bool) (n : ℤ) :
    ((signed negative n : ℤ) : ℚ) = signed negative (n : ℚ) := by
  cases negative with
  | false => rfl
  | true => exact Int.cast_neg n

theorem abs_signed (negative : Bool) (q : ℚ) : |signed negative q| = |q| := by
  cases negative with
  | false => rfl
  | true => exact abs_neg q

theorem abs_signed_sub_signed (negative : Bool) (a b : ℚ) :
    |signed negative a - signed negative b| = |a - b| := by
  cases negative with
  | false => rfl
  | true => rw [signed, signed, if_pos rfl, if_pos rfl, neg_sub_neg, abs_sub_comm]

theorem zpow_of_nonneg (base : ℕ) {e : ℤ} (he : 0 ≤ e) :
    (base : ℚ) ^ e = ((base ^ e.toNat : ℕ) : ℚ) := by
  obtain ⟨n, rfl⟩ := Int.eq_ofNat_of_zero_le he
  rw [zpow_natCast, Int.toNat_natCast, Nat.cast_pow]

theorem zpow_of_neg (base : ℕ) {e : ℤ} (he : ¬ 0 ≤ e) :
    (base : ℚ) ^ e = ((base ^ (-e).toNat : ℕ) : ℚ)⁻¹ := by
  rw [← zpow_of_nonneg base (by omega), zpow_neg, inv_inv]

theorem scaled_eq (base n : ℕ) (e : ℤ) :
    (if 0 ≤ e then ((n * Nat.pow base e.toNat : ℕ) : ℚ) else mkRat n (Nat.pow base (-e).toNat)) =
      n * (base : ℚ) ^ e := by
  rw [Nat.pow_eq, Nat.pow_eq]
  split
  · next he => rw [zpow_of_nonneg base he, Nat.cast_mul]
  · next he => rw [zpow_of_neg base he, Rat.mkRat_eq_div, div_eq_mul_inv, Int.cast_natCast]

theorem two_zpow_pos (e : ℤ) : (0 : ℚ) < 2 ^ e := zpow_pos two_pos e

theorem two_zpow_add (e : ℤ) (n : ℕ) : (2 : ℚ) ^ (e + n) = 2 ^ n * 2 ^ e := by
  rw [zpow_add₀ two_ne_zero, zpow_natCast, mul_comm]

/-! ## The nearest natural number -/

/-- No natural number is nearer, and it is even if another is as near. -/
structure NearestNat (m : ℕ) (r : ℚ) : Prop where
  half : |(m : ℚ) - r| ≤ 1 / 2
  even : |(m : ℚ) - r| = 1 / 2 → m % 2 = 0

theorem NearestNat.half_le {m : ℕ} {r : ℚ} (h : NearestNat m r) {n : ℕ} (hn : n ≠ m) :
    1 / 2 ≤ |(n : ℚ) - r| := by
  have hhalf := abs_le.1 h.half
  rcases lt_or_gt_of_ne hn with hlt | hgt
  · have hstep : (n : ℚ) + 1 ≤ m := by exact_mod_cast hlt
    rw [abs_sub_comm]
    exact le_trans (by linarith) (le_abs_self _)
  · have hstep : (m : ℚ) + 1 ≤ n := by exact_mod_cast hgt
    exact le_trans (by linarith) (le_abs_self _)

theorem NearestNat.le {m : ℕ} {r : ℚ} (h : NearestNat m r) (n : ℕ) :
    |(m : ℚ) - r| ≤ |(n : ℚ) - r| := by
  rcases eq_or_ne n m with rfl | hne
  · exact le_rfl
  · exact h.half.trans (h.half_le hne)

theorem nearestNat_nearestEven (num : ℕ) {den : ℕ} (hden : 0 < den) :
    NearestNat (Double.nearestEven num den) (num / den) := by
  have hpos : (0 : ℚ) < den := by exact_mod_cast hden
  have hrest : (num : ℚ) / den = (num / den : ℕ) + ((num % den : ℕ) : ℚ) / den := by
    rw [eq_comm, add_div' _ _ _ hpos.ne', div_left_inj' hpos.ne']
    exact_mod_cast Nat.div_add_mod' num den
  have htwice : (((2 * (num % den) : ℕ) : ℚ) / den) = 2 * (((num % den : ℕ) : ℚ) / den) := by
    push_cast
    ring
  have hfraction : (0 : ℚ) ≤ ((num % den : ℕ) : ℚ) / den := by positivity
  have hproper : ((num % den : ℕ) : ℚ) / den < 1 := by
    rw [div_lt_one hpos]
    exact_mod_cast Nat.mod_lt num hden
  rw [hrest]
  generalize ((num % den : ℕ) : ℚ) / den = fraction at htwice hfraction hproper ⊢
  have hbelow : ∀ n : ℕ, |(n : ℚ) - (n + fraction)| = fraction := fun n => by
    rw [sub_add_cancel_left, abs_neg, abs_of_nonneg hfraction]
  unfold Double.nearestEven
  rcases lt_trichotomy (2 * (num % den)) den with hlt | heq | hgt
  · have hless : ((2 * (num % den) : ℕ) : ℚ) / den < 1 := by
      rw [div_lt_one hpos]
      exact_mod_cast hlt
    rw [if_pos hlt]
    exact ⟨by rw [hbelow]; linarith, fun htie => by rw [hbelow] at htie; linarith⟩
  · have hsame : ((2 * (num % den) : ℕ) : ℚ) / den = 1 := by
      rw [heq, div_self hpos.ne']
    rw [if_neg (by omega), if_neg (by omega)]
    split
    · next heven => exact ⟨by rw [hbelow]; linarith, fun _ => heven⟩
    · next hodd =>
        refine ⟨?_, fun _ => by omega⟩
        rw [abs_le]
        push_cast
        constructor <;> linarith
  · have hmore : 1 < ((2 * (num % den) : ℕ) : ℚ) / den := by
      rw [one_lt_div hpos]
      exact_mod_cast hgt
    rw [if_neg (by omega), if_pos hgt]
    have habove : |((num / den + 1 : ℕ) : ℚ) - ((num / den : ℕ) + fraction)| = 1 - fraction := by
      push_cast
      rw [add_sub_add_left_eq_sub, abs_of_nonneg (by linarith)]
    exact ⟨by rw [habove]; linarith, fun htie => by rw [habove] at htie; linarith⟩

namespace Double

/-! ## The doubles of a binary order -/

theorem binaryOrder_spec {num den : ℕ} (hnum : num ≠ 0) (hden : den ≠ 0) :
    (2 : ℚ) ^ binaryOrder num den ≤ num / den ∧
    (num : ℚ) / den < 2 ^ (binaryOrder num den + 1) := by
  have hden' : (0 : ℚ) < den := by exact_mod_cast Nat.pos_of_ne_zero hden
  have hnumLow : (2 : ℚ) ^ num.log2 ≤ num := by exact_mod_cast Nat.log2_self_le hnum
  have hnumHigh : (num : ℚ) < 2 ^ (num.log2 + 1) := by exact_mod_cast Nat.lt_log2_self
  have hdenLow : (2 : ℚ) ^ den.log2 ≤ den := by exact_mod_cast Nat.log2_self_le hden
  have hdenHigh : (den : ℚ) < 2 ^ (den.log2 + 1) := by exact_mod_cast Nat.lt_log2_self
  -- the quotient is less than a factor of two away from the estimate, on either side
  set estimate : ℤ := (num.log2 : ℤ) - den.log2 with hestimate
  have hsplit : (2 : ℚ) ^ estimate * 2 ^ den.log2 = 2 ^ num.log2 := by
    rw [← zpow_natCast, ← zpow_natCast, ← zpow_add₀ two_ne_zero, hestimate, sub_add_cancel]
  have hpos := two_zpow_pos estimate
  have hhigh : (num : ℚ) / den < 2 ^ (estimate + 1) := by
    rw [div_lt_iff₀ hden', zpow_add_one₀ two_ne_zero]
    calc (num : ℚ) < 2 ^ (num.log2 + 1) := hnumHigh
      _ = 2 ^ estimate * 2 * 2 ^ den.log2 := by rw [pow_succ, ← hsplit]; ring
      _ ≤ 2 ^ estimate * 2 * den := by gcongr
  have hlow : (2 : ℚ) ^ (estimate - 1) ≤ num / den := by
    rw [le_div_iff₀ hden', zpow_sub_one₀ two_ne_zero]
    calc (2 : ℚ) ^ estimate * 2⁻¹ * den ≤ 2 ^ estimate * 2⁻¹ * 2 ^ (den.log2 + 1) := by gcongr
      _ = 2 ^ num.log2 := by rw [pow_succ, ← hsplit]; ring
      _ ≤ num := hnumLow
  have hreached : (if 0 ≤ estimate then decide (den * Nat.pow 2 estimate.toNat ≤ num)
      else decide (den ≤ num * Nat.pow 2 (-estimate).toNat)) = true ↔
        (2 : ℚ) ^ estimate ≤ num / den := by
    rw [le_div_iff₀ hden']
    split
    · next hestimate =>
        have hpower := zpow_of_nonneg 2 hestimate
        push_cast at hpower
        rw [hpower, decide_eq_true_iff, mul_comm]
        exact_mod_cast Iff.rfl
    · next hestimate =>
        have hpower := zpow_of_neg 2 hestimate
        push_cast at hpower
        rw [hpower, decide_eq_true_iff, inv_mul_le_iff₀ (by positivity), mul_comm]
        exact_mod_cast Iff.rfl
  unfold binaryOrder
  rw [← hestimate]
  by_cases h : (2 : ℚ) ^ estimate ≤ num / den
  · rw [if_pos (hreached.2 h)]
    exact ⟨h, hhigh⟩
  · rw [if_neg (h ∘ hreached.1), sub_add_cancel]
    exact ⟨hlow, not_le.1 h⟩

def magnitude (d : Double) : ℚ := d.significand * 2 ^ d.exponent

theorem magnitude_nonneg (d : Double) : 0 ≤ d.magnitude :=
  mul_nonneg (Nat.cast_nonneg _) (two_zpow_pos _).le

theorem magnitude_zero (negative : Bool) : (zero negative).magnitude = 0 := by
  rw [magnitude, zero, Nat.cast_zero, zero_mul]

theorem toRat_eq (d : Double) : d.toRat = signed d.negative d.magnitude := by
  rw [toRat, scaled_eq, Nat.cast_ofNat]
  rfl

/-- A double is a multiple of a power of two, or has a smaller exponent and is less than the
numbers whose leading bit is the one of a significand with that power. -/
theorem magnitude_cases (d : Double) (e : ℤ) :
    (∃ n : ℕ, d.magnitude = n * 2 ^ e ∧ (d.significand % 2 = 0 → n % 2 = 0)) ∨
      (d.exponent < e ∧ d.magnitude < 2 ^ 52 * 2 ^ e) := by
  rcases le_or_gt e d.exponent with hle | hlt
  · refine .inl ⟨d.significand * 2 ^ (d.exponent - e).toNat, ?_, fun heven => ?_⟩
    swap
    · rw [Nat.mul_mod, heven, zero_mul, Nat.zero_mod]
    have hpower : (2 : ℚ) ^ d.exponent = 2 ^ (d.exponent - e).toNat * 2 ^ e := by
      rw [← two_zpow_add]
      congr 1
      omega
    rw [magnitude, hpower]
    push_cast
    ring
  · refine .inr ⟨hlt, ?_⟩
    have hsignificand : (d.significand : ℚ) < 2 ^ 53 := by exact_mod_cast d.canonical.1
    calc d.magnitude < 2 ^ 53 * 2 ^ d.exponent :=
          mul_lt_mul_of_pos_right hsignificand (two_zpow_pos _)
      _ = 2 ^ 52 * 2 ^ (d.exponent + 1) := by rw [zpow_add_one₀ two_ne_zero]; ring
      _ ≤ 2 ^ 52 * 2 ^ e :=
          mul_le_mul_of_nonneg_left (zpow_le_zpow_right₀ one_le_two hlt) (by positivity)

/-! ## The nearest double -/

/-- Halfway between the largest double and the power of two that follows it. -/
def overflowBound : ℚ := (2 ^ 53 - 1 / 2) * 2 ^ (971 : ℤ)

/-- The double is one that a number is rounded to: no other is nearer, and its significand is even
if another is as near.  Numbers from the bound on are rounded to none. -/
structure Rounds (d : Double) (q : ℚ) : Prop where
  bounded : |q| < overflowBound
  nearest : ∀ other : Double, |d.toRat - q| ≤ |other.toRat - q|
  even : ∀ other : Double, other.toRat ≠ d.toRat → |other.toRat - q| = |d.toRat - q| →
    d.significand % 2 = 0

theorem abs_toRat (d : Double) : |d.toRat| = d.magnitude := by
  rw [toRat_eq, abs_signed, abs_of_nonneg d.magnitude_nonneg]

/-- A number and its double have the same sign, so it is enough to compare without it. -/
theorem rounds_of_magnitude {d : Double} {q : ℚ} (hq : 0 ≤ q) (hbounded : q < overflowBound)
    (hnearest : ∀ other : Double, |d.magnitude - q| ≤ |other.magnitude - q|)
    (heven : ∀ other : Double, other.magnitude ≠ d.magnitude →
      |other.magnitude - q| = |d.magnitude - q| → d.significand % 2 = 0) :
    d.Rounds (signed d.negative q) := by
  have hown : |d.toRat - signed d.negative q| = |d.magnitude - q| := by
    rw [toRat_eq, abs_signed_sub_signed]
  have hother (other : Double) : |other.magnitude - q| ≤ |other.toRat - signed d.negative q| := by
    calc |other.magnitude - q| = |(|other.toRat| - |signed d.negative q|)| := by
          rw [abs_toRat, abs_signed, abs_of_nonneg hq]
      _ ≤ |other.toRat - signed d.negative q| := abs_abs_sub_abs_le_abs_sub _ _
  refine ⟨by rwa [abs_signed, abs_of_nonneg hq], fun other => ?_, fun other hne htie => ?_⟩
  · exact hown ▸ (hnearest other).trans (hother other)
  · rw [hown] at htie
    apply heven other _ (le_antisymm (htie ▸ hother other) (hnearest other))
    -- the other double would be the negation, which is farther away unless it is zero
    intro hsame
    have hopposite : other.toRat = -d.toRat := by
      rw [toRat_eq, toRat_eq, hsame] at hne ⊢
      cases hd : d.negative <;> cases ho : other.negative <;>
        simp_all only [signed, if_true, if_false, reduceCtorEq, neg_neg, ne_eq, not_true]
    have hfar : |other.toRat - signed d.negative q| = d.magnitude + q := by
      have hnonneg : 0 ≤ d.magnitude + q := add_nonneg d.magnitude_nonneg hq
      rw [hopposite, toRat_eq]
      cases d.negative with
      | false => rw [signed, signed, if_neg (by decide), if_neg (by decide), ← neg_add', abs_neg,
          abs_of_nonneg hnonneg]
      | true =>
        rw [signed, signed, if_pos rfl, if_pos rfl, neg_neg, sub_neg_eq_add, abs_of_nonneg hnonneg]
    have hzero : d.magnitude = 0 := by
      have hnear := hnearest (zero false)
      rw [magnitude_zero, zero_sub, abs_neg, abs_of_nonneg hq] at hnear
      linarith [d.magnitude_nonneg]
    apply hne
    rw [hopposite, toRat_eq, hzero]
    cases d.negative <;> simp [signed]

/-- A power of two by which a number is scaled for its integral part to be a significand. -/
structure Scales (e : ℤ) (q : ℚ) : Prop where
  least : -1074 ≤ e
  low : e = -1074 ∨ 2 ^ 52 * 2 ^ e ≤ q
  high : q < 2 ^ 53 * 2 ^ e

theorem scales_binaryOrder {num den : ℕ} (hnum : num ≠ 0) (hden : den ≠ 0) :
    Scales (max (-1074) (binaryOrder num den - 52)) (num / den) := by
  obtain ⟨hlow, hhigh⟩ := binaryOrder_spec hnum hden
  generalize binaryOrder num den = order at hlow hhigh
  refine ⟨le_max_left _ _, ?_, ?_⟩
  · rcases le_total (order - 52) (-1074) with hle | hle
    · exact .inl (max_eq_left hle)
    · rw [max_eq_right hle, ← two_zpow_add, Nat.cast_ofNat, sub_add_cancel]
      exact .inr hlow
  · rw [← two_zpow_add]
    refine hhigh.trans_le (zpow_le_zpow_right₀ one_le_two ?_)
    have := le_max_right (-1074) (order - 52)
    omega

section Scaled

variable {q : ℚ} {e : ℤ} {m : ℕ}

theorem abs_mul_zpow_sub (n : ℕ) : |(n : ℚ) * 2 ^ e - q| = |(n : ℚ) - q / 2 ^ e| * 2 ^ e := by
  have hpos := two_zpow_pos e
  rw [← abs_of_pos hpos, ← abs_mul, abs_of_pos hpos, sub_mul, div_mul_cancel₀ _ hpos.ne']

/-- The multiple that is nearest to a number is as near to it as the nearest double. -/
theorem nearest_magnitude (hs : Scales e q) (hm : NearestNat m (q / 2 ^ e)) (other : Double) :
    |(m : ℚ) * 2 ^ e - q| ≤ |other.magnitude - q| ∧
      (other.magnitude ≠ m * 2 ^ e → |other.magnitude - q| = |(m : ℚ) * 2 ^ e - q| →
        m % 2 = 0) := by
  have hpos := two_zpow_pos e
  rcases other.magnitude_cases e with ⟨n, hn, -⟩ | ⟨hexponent, hless⟩
  · rw [hn, abs_mul_zpow_sub, abs_mul_zpow_sub]
    rcases eq_or_ne n m with rfl | hne
    · exact ⟨le_rfl, fun hne => absurd rfl hne⟩
    · have hhalf := hm.half_le hne
      refine ⟨mul_le_mul_of_nonneg_right (hm.half.trans hhalf) hpos.le, fun _ htie => ?_⟩
      have hsame := mul_right_cancel₀ hpos.ne' htie
      exact hm.even (le_antisymm hm.half (hsame ▸ hhalf))
  · -- a smaller exponent: the number is above the multiple by the leading bit, which is nearer
    have hlead : 2 ^ 52 * 2 ^ e ≤ q := by
      have hcanonical := other.canonical.2.1
      exact hs.low.resolve_left (by omega)
    have hnearer : |(m : ℚ) * 2 ^ e - q| ≤ |((2 ^ 52 : ℕ) : ℚ) * 2 ^ e - q| := by
      rw [abs_mul_zpow_sub, abs_mul_zpow_sub]
      exact mul_le_mul_of_nonneg_right (hm.le _) hpos.le
    have hfarther : |((2 ^ 52 : ℕ) : ℚ) * 2 ^ e - q| < |other.magnitude - q| := by
      push_cast
      rw [abs_sub_comm, abs_of_nonneg (by linarith), abs_sub_comm, abs_of_nonneg (by linarith)]
      linarith
    exact ⟨(hnearer.trans_lt hfarther).le,
      fun _ htie => absurd htie (hnearer.trans_lt hfarther).ne'⟩

theorem Scales.le_significand (hs : Scales e q) (hm : NearestNat m (q / 2 ^ e)) :
    m ≤ 2 ^ 53 ∧ (e = -1074 ∨ 2 ^ 52 ≤ m) := by
  have hpos := two_zpow_pos e
  have hnear := abs_le.1 hm.half
  constructor
  · have hhigh : q / 2 ^ e < 2 ^ 53 := (div_lt_iff₀ hpos).2 hs.high
    have hless : (m : ℚ) < ((2 ^ 53 + 1 : ℕ) : ℚ) := by
      push_cast
      linarith
    exact Nat.lt_succ_iff.1 (by exact_mod_cast hless)
  · refine hs.low.imp_right fun hlow => ?_
    have hlow : 2 ^ 52 ≤ q / 2 ^ e := (le_div_iff₀ hpos).2 hlow
    have hless : ((2 ^ 52 : ℕ) : ℚ) < ((m + 1 : ℕ) : ℚ) := by
      push_cast
      linarith
    exact Nat.lt_succ_iff.1 (by exact_mod_cast hless)

/-- A number is below the bound if its significand is one of a double's. -/
theorem lt_overflowBound (hm : NearestNat m (q / 2 ^ e)) (he : e ≤ 971)
    (hlt : m < 2 ^ 53) : q < overflowBound := by
  have hpos := two_zpow_pos e
  have hnear := abs_le.1 hm.half
  have hle : (m : ℚ) + 1 ≤ 2 ^ 53 := by exact_mod_cast hlt
  have hscaled : q / 2 ^ e < 2 ^ 53 - 1 / 2 := by
    rcases lt_or_ge (q / 2 ^ e) (2 ^ 53 - 1 / 2) with h | h
    · exact h
    · -- the largest significand is odd, so a tie is not rounded to it
      have hlast : (m : ℚ) = 2 ^ 53 - 1 := by linarith
      have heven := hm.even (by rw [abs_sub_comm, abs_of_nonneg (by linarith)]; linarith)
      have hodd : m = 2 ^ 53 - 1 := by
        have hcast : ((m + 1 : ℕ) : ℚ) = ((2 ^ 53 : ℕ) : ℚ) := by
          push_cast
          linarith
        have := Nat.cast_injective hcast
        omega
      omega
  calc q < (2 ^ 53 - 1 / 2) * 2 ^ e := (div_lt_iff₀ hpos).1 hscaled
    _ ≤ overflowBound :=
        mul_le_mul_of_nonneg_left (zpow_le_zpow_right₀ one_le_two he) (by norm_num)

/-- A number is beyond the bound if its significand is none of a double's. -/
theorem Scales.overflowBound_le (hs : Scales e q) (hm : NearestNat m (q / 2 ^ e))
    (hlarge : 971 < e ∨ (e = 971 ∧ m = 2 ^ 53)) : overflowBound ≤ q := by
  have hpos := two_zpow_pos e
  rcases hlarge with hlt | ⟨rfl, rfl⟩
  · have hpower : (2 : ℚ) ^ (971 : ℤ) * 2 ≤ 2 ^ e := by
      rw [← zpow_add_one₀ two_ne_zero]
      exact zpow_le_zpow_right₀ one_le_two hlt
    have hlow := hs.low.resolve_left (by omega)
    have hlast := two_zpow_pos 971
    rw [overflowBound]
    generalize (2 : ℚ) ^ (971 : ℤ) = last at hpower hlast ⊢
    linarith
  · have hnear := abs_le.1 hm.half
    rw [overflowBound, ← le_div_iff₀ hpos]
    generalize q / 2 ^ (971 : ℤ) = scaled at hnear ⊢
    push_cast at hnear
    linarith

end Scaled

theorem ofParts?_eq_some {negative : Bool} {significand : ℕ} {exponent : ℤ} {d : Double}
    (h : ofParts? negative significand exponent = some d) :
    d.negative = negative ∧ d.significand = significand ∧ d.exponent = exponent := by
  unfold ofParts? at h
  split at h
  · cases h
    exact ⟨rfl, rfl, rfl⟩
  · cases h

theorem ofParts?_eq_none {negative : Bool} {significand : ℕ} {exponent : ℤ} :
    ofParts? negative significand exponent = none ↔ ¬ IsCanonicalDouble significand exponent := by
  unfold ofParts?
  split <;> simp_all

/-- What `ofRatio?` computes: the exponent scales the number, and the significand is the nearest to
the scaled number, or stands for the next power of two. -/
theorem exists_scaled (negative : Bool) {num den : ℕ} (hnum : num ≠ 0) (hden : den ≠ 0) :
    ∃ e m, Scales e (num / den) ∧ NearestNat m (num / den / 2 ^ e) ∧
      ofRatio? negative num den =
        if m = 2 ^ 53 then ofParts? negative (2 ^ 52) (e + 1) else ofParts? negative m e := by
  have hdenPos := Nat.pos_of_ne_zero hden
  set e := max (-1074) (binaryOrder num den - 52) with he
  have hscaled : NearestNat (if 0 ≤ e then nearestEven num (den * Nat.pow 2 e.toNat)
      else nearestEven (num * Nat.pow 2 (-e).toNat) den) (num / den / 2 ^ e) := by
    rw [Nat.pow_eq, Nat.pow_eq]
    split
    · next hnonneg =>
        have hpower := zpow_of_nonneg 2 hnonneg
        rw [Nat.cast_ofNat] at hpower
        rw [hpower, div_div, ← Nat.cast_mul]
        exact nearestNat_nearestEven num (by positivity)
    · next hneg =>
        have hpower := zpow_of_neg 2 hneg
        rw [Nat.cast_ofNat] at hpower
        rw [hpower, div_inv_eq_mul, div_mul_eq_mul_div, ← Nat.cast_mul]
        exact nearestNat_nearestEven _ hdenPos
  refine ⟨e, _, scales_binaryOrder hnum hden, hscaled, ?_⟩
  rw [ofRatio?, if_neg hnum]
  rfl

theorem rounds_zero (negative : Bool) {q : ℚ} (hq : 0 ≤ q) (hsmall : q < 1 / 2 * 2 ^ (-1074 : ℤ)) :
    (zero negative).Rounds (signed negative q) := by
  have hbounded : q < overflowBound := by
    refine hsmall.trans_le (mul_le_mul (by norm_num) ?_ (two_zpow_pos _).le (by norm_num))
    exact zpow_le_zpow_right₀ one_le_two (by norm_num)
  have hfar (other : Double) (hne : other.magnitude ≠ 0) : q < |other.magnitude - q| := by
    rcases other.magnitude_cases (-1074) with ⟨n, hn, -⟩ | ⟨hless, -⟩
    · have hpositive : (1 : ℚ) ≤ n := by
        have hnonzero : n ≠ 0 := fun hzero => hne (by rw [hn, hzero, Nat.cast_zero, zero_mul])
        exact_mod_cast Nat.pos_of_ne_zero hnonzero
      have hleast : (2 : ℚ) ^ (-1074 : ℤ) ≤ other.magnitude := by
        rw [hn]
        exact le_mul_of_one_le_left (two_zpow_pos _).le hpositive
      exact lt_of_lt_of_le (by linarith) (le_abs_self _)
    · exact absurd other.canonical.2.1 (by omega)
  have hmagnitude : |(zero negative).magnitude - q| = q := by
    rw [magnitude_zero, zero_sub, abs_neg, abs_of_nonneg hq]
  refine rounds_of_magnitude (d := zero negative) hq hbounded (fun other => ?_) fun _ _ _ => rfl
  rw [hmagnitude]
  by_cases hne : other.magnitude = 0
  · rw [hne, zero_sub, abs_neg, abs_of_nonneg hq]
  · exact (hfar other hne).le

theorem rounds_ofRatio? {negative : Bool} {num den : ℕ} (hden : den ≠ 0) {d : Double}
    (h : ofRatio? negative num den = some d) : d.Rounds (signed negative (num / den)) := by
  by_cases hnum : num = 0
  · rw [ofRatio?, if_pos hnum] at h
    cases h
    rw [hnum, Nat.cast_zero, zero_div]
    exact rounds_zero negative le_rfl (mul_pos one_half_pos (two_zpow_pos _))
  obtain ⟨e, m, hs, hm, hround⟩ := exists_scaled negative hnum hden
  rw [hround] at h
  have hq : (0 : ℚ) ≤ num / den := by positivity
  generalize (num : ℚ) / den = q at hs hm hq
  suffices hparts : d.negative = negative ∧ d.magnitude = m * 2 ^ e ∧ q < overflowBound ∧
      (m % 2 = 0 → d.significand % 2 = 0) by
    obtain ⟨rfl, hmagnitude, hbounded, heven⟩ := hparts
    refine rounds_of_magnitude hq hbounded (fun other => ?_) fun other hne htie => heven ?_
    · rw [hmagnitude]
      exact (nearest_magnitude hs hm other).1
    · rw [hmagnitude] at hne htie
      exact (nearest_magnitude hs hm other).2 hne htie
  split at h
  · next hcarry =>
      obtain ⟨hnegative, hsignificand, hexponent⟩ := ofParts?_eq_some h
      have hexp : e + 1 ≤ 971 := hexponent ▸ d.canonical.2.2.1
      refine ⟨hnegative, ?_, ?_, fun _ => by rw [hsignificand]; rfl⟩
      · rw [magnitude, hsignificand, hexponent, hcarry, zpow_add_one₀ two_ne_zero]
        push_cast
        ring
      · have hpower : (2 : ℚ) ^ e * 2 ≤ 2 ^ (971 : ℤ) := by
          rw [← zpow_add_one₀ two_ne_zero]
          exact zpow_le_zpow_right₀ one_le_two hexp
        have hhigh := hs.high
        have hpos := two_zpow_pos e
        rw [overflowBound]
        generalize (2 : ℚ) ^ (971 : ℤ) = last at hpower ⊢
        linarith
  · next hcarry =>
      obtain ⟨hnegative, hsignificand, hexponent⟩ := ofParts?_eq_some h
      have hexp : e ≤ 971 := hexponent ▸ d.canonical.2.2.1
      have hlt : m < 2 ^ 53 := hsignificand ▸ d.canonical.1
      exact ⟨hnegative, by rw [magnitude, hsignificand, hexponent], lt_overflowBound hm hexp hlt,
        fun heven => hsignificand ▸ heven⟩

theorem overflowBound_le_of_ofRatio? {negative : Bool} {num den : ℕ} (hden : den ≠ 0)
    (h : ofRatio? negative num den = none) : overflowBound ≤ num / den := by
  have hnum : num ≠ 0 := by
    intro hnum
    rw [ofRatio?, if_pos hnum] at h
    cases h
  obtain ⟨e, m, hs, hm, hround⟩ := exists_scaled negative hnum hden
  rw [hround] at h
  obtain ⟨hle, hlead⟩ := hs.le_significand hm
  have hleast := hs.least
  apply hs.overflowBound_le hm
  split at h
  · next hcarry =>
      have hparts := ofParts?_eq_none.1 h
      simp only [IsCanonicalDouble, Nat.pow_eq] at hparts
      omega
  · next hcarry =>
      have hparts := ofParts?_eq_none.1 h
      simp only [IsCanonicalDouble, Nat.pow_eq] at hparts
      omega

/-! ## Rounding determines the value -/

/-- The successor of a double with an even significand is below every other such double
that is above. -/
theorem exists_magnitude_between {a b : Double} (ha : a.significand % 2 = 0)
    (hb : b.significand % 2 = 0) (hlt : a.magnitude < b.magnitude) (negative : Bool) :
    ∃ c : Double, c.negative = negative ∧ a.magnitude < c.magnitude ∧
      c.magnitude < b.magnitude := by
  have hcanonical : IsCanonicalDouble (a.significand + 1) a.exponent := by
    have hcanonical := a.canonical
    simp only [IsCanonicalDouble, Nat.pow_eq] at hcanonical ⊢
    omega
  have hpos := two_zpow_pos a.exponent
  refine ⟨⟨negative, a.significand + 1, a.exponent, hcanonical⟩, rfl, ?_, ?_⟩
  · rw [magnitude, magnitude]
    exact mul_lt_mul_of_pos_right (by exact_mod_cast Nat.lt_succ_self _) hpos
  · rcases b.magnitude_cases a.exponent with ⟨n, hn, heven⟩ | ⟨hexponent, hless⟩
    · have hbelow : a.significand < n := by
        rw [hn, magnitude] at hlt
        exact_mod_cast lt_of_mul_lt_mul_right hlt hpos.le
      have hstep : a.significand + 1 < n := by
        have := heven hb
        omega
      rw [hn, magnitude]
      exact mul_lt_mul_of_pos_right (by exact_mod_cast hstep) hpos
    · -- a larger exponent comes with a leading bit, which the other magnitude does not reach
      have hlead : Nat.pow 2 52 ≤ a.significand := by
        have hleast := b.canonical.2.1
        exact a.canonical.2.2.2.resolve_right (by omega)
      have hlead' : (2 : ℚ) ^ 52 ≤ a.significand := by exact_mod_cast hlead
      have habove : (2 : ℚ) ^ 52 * 2 ^ a.exponent ≤ a.magnitude :=
        mul_le_mul_of_nonneg_right hlead' hpos.le
      exact absurd (habove.trans_lt hlt) (not_lt.2 hless.le)

theorem exists_between {a b : Double} (ha : a.significand % 2 = 0) (hb : b.significand % 2 = 0)
    (hlt : a.toRat < b.toRat) : ∃ c : Double, a.toRat < c.toRat ∧ c.toRat < b.toRat := by
  have haNonneg := a.magnitude_nonneg
  have hbNonneg := b.magnitude_nonneg
  simp only [toRat_eq a, toRat_eq b] at hlt ⊢
  cases haSign : a.negative <;> cases hbSign : b.negative <;>
    simp only [haSign, hbSign, signed, if_true, if_false, reduceCtorEq] at hlt ⊢
  case false.false =>
    obtain ⟨c, hsign, hlow, hhigh⟩ := exists_magnitude_between ha hb hlt false
    exact ⟨c, by rw [toRat_eq, hsign]; exact hlow, by rw [toRat_eq, hsign]; exact hhigh⟩
  case false.true => linarith
  case true.true =>
    obtain ⟨c, hsign, hlow, hhigh⟩ := exists_magnitude_between hb ha (neg_lt_neg_iff.1 hlt) true
    exact ⟨c, by rw [toRat_eq, hsign]; exact neg_lt_neg hhigh,
      by rw [toRat_eq, hsign]; exact neg_lt_neg hlow⟩
  case true.false =>
    rcases haNonneg.eq_or_lt with haZero | haPos
    · obtain ⟨c, hsign, hlow, hhigh⟩ := exists_magnitude_between ha hb (by linarith) false
      refine ⟨c, ?_, by rw [toRat_eq, hsign]; exact hhigh⟩
      rw [toRat_eq, hsign, ← haZero, neg_zero]
      exact haZero.trans_lt hlow
    · rcases hbNonneg.eq_or_lt with hbZero | hbPos
      · obtain ⟨c, hsign, hlow, hhigh⟩ := exists_magnitude_between hb ha (by linarith) true
        refine ⟨c, by rw [toRat_eq, hsign]; exact neg_lt_neg hhigh, ?_⟩
        rw [toRat_eq, hsign, ← hbZero]
        exact neg_lt_zero.2 (hbZero.trans_lt hlow)
      · refine ⟨zero false, ?_, ?_⟩ <;> rw [toRat_eq, magnitude_zero]
        · exact neg_lt_zero.2 haPos
        · exact hbPos

theorem Rounds.toRat_unique {a b : Double} {q : ℚ} (ha : a.Rounds q) (hb : b.Rounds q) :
    a.toRat = b.toRat := by
  by_contra hne
  have htie : |a.toRat - q| = |b.toRat - q| := le_antisymm (ha.nearest b) (hb.nearest a)
  have haEven := ha.even b (Ne.symm hne) htie.symm
  have hbEven := hb.even a hne htie
  have hmiddle : a.toRat + b.toRat = 2 * q := by
    rcases abs_eq_abs.1 htie with hsame | hopposite
    · exact absurd (sub_left_injective hsame) hne
    · linarith
  -- a double strictly between two that are equally near is nearer
  have hnearer {z : Double} (hz : |z.toRat - q| < |a.toRat - q|) : False :=
    absurd (ha.nearest z) (not_le.2 hz)
  rcases lt_or_gt_of_ne hne with hlt | hgt
  · obtain ⟨z, hlow, hhigh⟩ := exists_between haEven hbEven hlt
    apply hnearer (z := z)
    rw [abs_of_nonpos (by linarith : a.toRat - q ≤ 0), abs_lt]
    constructor <;> linarith
  · obtain ⟨z, hlow, hhigh⟩ := exists_between hbEven haEven hgt
    apply hnearer (z := z)
    rw [abs_of_nonneg (by linarith : 0 ≤ a.toRat - q), abs_lt]
    constructor <;> linarith

end Double

/-! ## Reading decimals -/

namespace Decimal

theorem toRat_eq (x : Decimal) :
    x.toRat = signed x.negative ((x.coefficient : ℚ) * 10 ^ x.exponent) := by
  rw [toRat, scaled_eq, Nat.cast_ofNat]
  rfl

theorem coefficient_lt (n : ℕ) : n < 10 ^ digitCount n :=
  (Nat.length_toDigits_le_iff (by norm_num) Nat.length_toDigits_pos).1 le_rfl

theorem le_coefficient {n : ℕ} (hn : n ≠ 0) : 10 ^ (digitCount n - 1) ≤ n := by
  rcases Nat.eq_zero_or_pos (digitCount n - 1) with hone | hmore
  · rw [hone, pow_zero]
    exact Nat.pos_of_ne_zero hn
  · rw [← not_lt, ← Nat.length_toDigits_le_iff (by norm_num) hmore]
    have hpos : 0 < digitCount n := Nat.length_toDigits_pos
    rw [digitCount] at *
    omega

theorem ten_zpow_add (x : Decimal) (n : ℕ) :
    ((10 ^ n : ℕ) : ℚ) * 10 ^ x.exponent = 10 ^ (x.exponent + n) := by
  rw [zpow_add₀ (by norm_num), zpow_natCast, mul_comm, Nat.cast_pow, Nat.cast_ofNat]

theorem magnitude_lt (x : Decimal) :
    (x.coefficient : ℚ) * 10 ^ x.exponent < 10 ^ (x.exponent + digitCount x.coefficient) := by
  rw [← ten_zpow_add]
  have hlt : (x.coefficient : ℚ) < ((10 ^ digitCount x.coefficient : ℕ) : ℚ) := by
    exact_mod_cast coefficient_lt x.coefficient
  exact mul_lt_mul_of_pos_right hlt (zpow_pos (by norm_num) _)

theorem le_magnitude {x : Decimal} (hx : x.coefficient ≠ 0) :
    (10 : ℚ) ^ (x.exponent + digitCount x.coefficient - 1) ≤ x.coefficient * 10 ^ x.exponent := by
  have hpos : 0 < digitCount x.coefficient := Nat.length_toDigits_pos
  have hexponent : x.exponent + digitCount x.coefficient - 1 =
      x.exponent + (digitCount x.coefficient - 1 : ℕ) := by omega
  rw [hexponent, ← ten_zpow_add]
  have hle : ((10 ^ (digitCount x.coefficient - 1) : ℕ) : ℚ) ≤ x.coefficient := by
    exact_mod_cast le_coefficient hx
  exact mul_le_mul_of_nonneg_right hle (zpow_pos (by norm_num) _).le

theorem ten_zpow_le : (10 : ℚ) ^ (-331 : ℤ) ≤ 1 / 2 * 2 ^ (-1074 : ℤ) := by
  have hpowers : 2 * 2 ^ 1074 ≤ 10 ^ 331 := by decide +kernel
  have hcast : (2 : ℚ) * 2 ^ 1074 ≤ 10 ^ 331 := by exact_mod_cast hpowers
  rw [zpow_neg, zpow_neg, zpow_ofNat, zpow_ofNat, one_div, ← mul_inv]
  exact inv_anti₀ (by positivity) hcast

theorem overflowBound_le_ten_zpow : Double.overflowBound ≤ 10 ^ (310 : ℤ) := by
  have hpowers : 2 ^ 53 * 2 ^ 971 ≤ 10 ^ 310 := by decide +kernel
  have hcast : (2 : ℚ) ^ 53 * 2 ^ 971 ≤ 10 ^ 310 := by exact_mod_cast hpowers
  rw [Double.overflowBound, zpow_ofNat, zpow_ofNat]
  refine le_trans (mul_le_mul_of_nonneg_right ?_ (by positivity)) hcast
  exact sub_le_self _ one_half_pos.le

theorem rounds_toDouble? {x : Decimal} {d : Double} (h : x.toDouble? = some d) :
    d.Rounds x.toRat := by
  have hnonneg : (0 : ℚ) ≤ x.coefficient * 10 ^ x.exponent := by positivity
  rw [toRat_eq]
  unfold toDouble? at h
  dsimp only at h
  split_ifs at h with hsmall hlarge hexponent
  · cases h
    apply Double.rounds_zero _ hnonneg
    rcases hsmall with hzero | horder
    · rw [hzero, Nat.cast_zero, zero_mul]
      exact mul_pos one_half_pos (two_zpow_pos _)
    · calc (x.coefficient : ℚ) * 10 ^ x.exponent < 10 ^ (x.exponent + digitCount x.coefficient) :=
            x.magnitude_lt
        _ ≤ 10 ^ (-331 : ℤ) := zpow_le_zpow_right₀ (by norm_num) (by omega)
        _ ≤ 1 / 2 * 2 ^ (-1074 : ℤ) := ten_zpow_le
  · have hrounds := Double.rounds_ofRatio? one_ne_zero h
    have hpower := zpow_of_nonneg 10 hexponent
    rw [Nat.cast_ofNat] at hpower
    rwa [Nat.cast_one, div_one, Nat.pow_eq, Nat.cast_mul, ← hpower] at hrounds
  · have hrounds := Double.rounds_ofRatio? (by rw [Nat.pow_eq]; positivity) h
    have hpower := zpow_of_neg 10 hexponent
    rw [Nat.cast_ofNat] at hpower
    rwa [Nat.pow_eq, div_eq_mul_inv, ← hpower] at hrounds

theorem overflowBound_le_of_toDouble? {x : Decimal} (h : x.toDouble? = none) :
    Double.overflowBound ≤ |x.toRat| := by
  have hnonneg : (0 : ℚ) ≤ x.coefficient * 10 ^ x.exponent := by positivity
  rw [toRat_eq, abs_signed, abs_of_nonneg hnonneg]
  unfold toDouble? at h
  dsimp only at h
  split_ifs at h with hsmall hlarge hexponent
  · calc Double.overflowBound ≤ 10 ^ (310 : ℤ) := overflowBound_le_ten_zpow
      _ ≤ 10 ^ (x.exponent + digitCount x.coefficient - 1) :=
          zpow_le_zpow_right₀ (by norm_num) (by omega)
      _ ≤ x.coefficient * 10 ^ x.exponent := le_magnitude fun hzero => hsmall (.inl hzero)
  · have hbound := Double.overflowBound_le_of_ofRatio? one_ne_zero h
    have hpower := zpow_of_nonneg 10 hexponent
    rw [Nat.cast_ofNat] at hpower
    rwa [Nat.cast_one, div_one, Nat.pow_eq, Nat.cast_mul, ← hpower] at hbound
  · have hbound := Double.overflowBound_le_of_ofRatio? (by rw [Nat.pow_eq]; positivity) h
    have hpower := zpow_of_neg 10 hexponent
    rw [Nat.cast_ofNat] at hpower
    rwa [Nat.pow_eq, div_eq_mul_inv, ← hpower] at hbound

end Decimal

end ChannelGateway
