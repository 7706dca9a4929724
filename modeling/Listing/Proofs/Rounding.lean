import Listing.Binary64
import Mathlib.Algebra.Order.Field.Power
import Mathlib.Data.Rat.Cast.Order
import Mathlib.Tactic.Lemma
import Mathlib.Tactic.Linarith
import Mathlib.Tactic.LinearCombination
import Mathlib.Tactic.Positivity
import Mathlib.Tactic.Ring

/-! Rounding, against the reals that floating-point values stand for. A ratio is rounded to a multiple of a power of
two, the step of its grid. The values off this grid lie below its normal part, and hence further from the ratio. -/
namespace Listing

/-- The multiple that a number is rounded to is at most half a step away, and an even one if it is just that. -/
lemma roundHalfEven_mul (a : Nat) {d : Nat} (hd : d ≠ 0) :
    2 * a ≤ 2 * (d * roundHalfEven a d) + d ∧ 2 * (d * roundHalfEven a d) ≤ 2 * a + d ∧
      (2 * a = 2 * (d * roundHalfEven a d) + d ∨ 2 * (d * roundHalfEven a d) = 2 * a + d →
        roundHalfEven a d % 2 = 0) := by
  have ha : d * (a / d) + a % d = a := Nat.div_add_mod a d
  have hs : d * (a / d + 1) = d * (a / d) + d := Nat.mul_succ d (a / d)
  have hr : a % d < d := Nat.mod_lt a (Nat.pos_of_ne_zero hd)
  unfold roundHalfEven
  dsimp only
  split
  · rename_i h
    simp only [Bool.or_eq_true, Bool.and_eq_true, decide_eq_true_eq, beq_iff_eq] at h
    omega
  · rename_i h
    simp only [Bool.or_eq_true, Bool.and_eq_true, decide_eq_true_eq, beq_iff_eq] at h
    omega

lemma abs_roundHalfEven_sub (a : Nat) {d : Nat} (hd : d ≠ 0) :
    |(roundHalfEven a d : ℚ) - a / d| ≤ 1 / 2 ∧
      (|(roundHalfEven a d : ℚ) - a / d| = 1 / 2 → roundHalfEven a d % 2 = 0) := by
  obtain ⟨hl, hu, he⟩ := roundHalfEven_mul a hd
  generalize roundHalfEven a d = q at *
  have hpos : (0 : ℚ) < d := by exact_mod_cast Nat.pos_of_ne_zero hd
  have ha : (a : ℚ) / d * d = a := div_mul_cancel₀ _ hpos.ne'
  generalize (a : ℚ) / d = y at *
  have hl : (2 * a : ℚ) ≤ 2 * (d * q) + d := by exact_mod_cast hl
  have hu : (2 * (d * q) : ℚ) ≤ 2 * a + d := by exact_mod_cast hu
  refine ⟨abs_le.mpr ⟨by nlinarith, by nlinarith⟩, fun h => he ?_⟩
  rcases (abs_eq (by norm_num)).mp h with h | h
  · have hq : (2 * (d * q) : ℚ) = 2 * a + d := by linear_combination 2 * (d : ℚ) * h + 2 * ha
    exact .inr (by exact_mod_cast hq)
  · have hq : (2 * a : ℚ) = 2 * (d * q) + d := by linear_combination -2 * (d : ℚ) * h - 2 * ha
    exact .inl (by exact_mod_cast hq)

namespace Binary64

/-- The real that a magnitude stands for. -/
def value (g : Nat) : ℚ := significand g * 2 ^ exponent g

lemma hiddenBit_eq : hiddenBit = 2 ^ 52 := rfl

lemma significand_lt (g : Nat) : significand g < 2 ^ 53 := by
  unfold significand
  rw [hiddenBit_eq]
  split <;> omega

lemma le_exponent (g : Nat) : -1074 ≤ exponent g := by
  unfold exponent
  omega

lemma exponent_le {g : Nat} (h : g < 0x7FF <<< 52) : exponent g ≤ 971 := by
  have hq : g / hiddenBit < 0x7FF := by
    rw [hiddenBit_eq]
    exact Nat.div_lt_of_lt_mul (by simpa [Nat.shiftLeft_eq, Nat.mul_comm] using h)
  unfold exponent
  omega

lemma value_of_eq {g m : Nat} {e : ℤ} (hm : significand g = m) (he : exponent g = e) : value g = m * 2 ^ e := by
  rw [value, hm, he]

/-- A magnitude put together from a multiple of a power of two. The multiple may be the least that is too large:
then it makes the exponent greater by one. -/
lemma value_magnitude {e : ℤ} {q : Nat} (he : -1074 ≤ e) (hq : q ≤ 2 ^ 53) (hn : e = -1074 ∨ 2 ^ 52 ≤ q) :
    value ((e + 1074).toNat * hiddenBit + q) = q * 2 ^ e := by
  obtain ⟨k, rfl⟩ : ∃ k : Nat, e = k - 1074 := ⟨(e + 1074).toNat, by omega⟩
  have hk : ((k : ℤ) - 1074 + 1074).toNat = k := by omega
  rw [hk, hiddenBit_eq]
  rcases Nat.lt_or_ge q (2 ^ 52) with hs | hs
  · have h : k = 0 := by omega
    subst h
    refine value_of_eq ?_ ?_
    · rw [significand, hiddenBit_eq, if_pos (by omega)]
      omega
    · rw [exponent, hiddenBit_eq]
      omega
  rcases Nat.lt_or_ge q (2 ^ 53) with hl | hl
  · refine value_of_eq ?_ ?_
    · rw [significand, hiddenBit_eq, if_neg (by omega)]
      omega
    · rw [exponent, hiddenBit_eq]
      omega
  · have h : q = 2 ^ 53 := by omega
    subst h
    have hv : value (k * 2 ^ 52 + 2 ^ 53) = (2 ^ 52 : Nat) * 2 ^ ((k : ℤ) - 1074 + 1) := by
      refine value_of_eq ?_ ?_
      · rw [significand, hiddenBit_eq, if_neg (by omega)]
        omega
      · rw [exponent, hiddenBit_eq]
        omega
    rw [hv, zpow_add_one₀ two_ne_zero]
    push_cast
    ring

/-! ### The grid of a ratio -/

/-- The multiple `q` of the step `2 ^ e` to which `x` is rounded. There are at least `2 ^ 52` steps up to `x`, or the
step is the least of all, and in any case less than `2 ^ 53`. -/
structure Rounded (x : ℚ) (e : ℤ) (q : Nat) : Prop where
  least : -1074 ≤ e
  below : x / 2 ^ e < 2 ^ 53
  above : e = -1074 ∨ 2 ^ 52 ≤ x / 2 ^ e
  near : |q - x / 2 ^ e| ≤ 1 / 2
  even : |q - x / 2 ^ e| = 1 / 2 → q % 2 = 0

lemma div_zpow_lt_iff {x : ℚ} {e : ℤ} {k : Nat} : x / 2 ^ e < 2 ^ k ↔ x < 2 ^ (e + k) := by
  rw [div_lt_iff₀ (by positivity), zpow_add₀ two_ne_zero, zpow_natCast, mul_comm]

lemma le_div_zpow_iff {x : ℚ} {e : ℤ} {k : Nat} : 2 ^ k ≤ x / 2 ^ e ↔ 2 ^ (e + k) ≤ x := by
  rw [← not_lt, div_zpow_lt_iff, not_lt]

lemma shift_div_shift (num den : Nat) (e : ℤ) :
    ((num <<< (-e).toNat : Nat) : ℚ) / (den <<< e.toNat : Nat) = num / den / 2 ^ e := by
  rw [Nat.shiftLeft_eq, Nat.shiftLeft_eq]
  rcases le_total 0 e with h | h
  · obtain ⟨k, rfl⟩ := Int.eq_ofNat_of_zero_le h
    simp [div_div]
  · obtain ⟨k, hk⟩ := Int.eq_ofNat_of_zero_le (neg_nonneg.mpr h)
    obtain rfl : e = -k := by omega
    simp [div_mul_eq_mul_div]

lemma shift_lt_shift_iff (num : Nat) {den : Nat} (hd : den ≠ 0) (e : ℤ) :
    num <<< (-e).toNat < den <<< e.toNat * hiddenBit ↔ (num : ℚ) / den / 2 ^ e < 2 ^ 52 := by
  have hpos : (0 : ℚ) < (den <<< e.toNat : Nat) := by
    rw [Nat.shiftLeft_eq]
    have h : 0 < den := Nat.pos_of_ne_zero hd
    positivity
  rw [← shift_div_shift, div_lt_iff₀ hpos, mul_comm, hiddenBit_eq]
  norm_cast

/-- A ratio lies between two powers of two, four times apart. -/
lemma ratio_bounds {num den : Nat} (hn : num ≠ 0) (hd : den ≠ 0) :
    (2 : ℚ) ^ ((num.log2 : ℤ) - den.log2 - 1) ≤ num / den ∧
      (num / den : ℚ) < 2 ^ ((num.log2 : ℤ) - den.log2 + 1) := by
  have hnl : ((2 ^ num.log2 : Nat) : ℚ) ≤ num := by exact_mod_cast Nat.log2_self_le hn
  have hnu : (num : ℚ) < (2 ^ (num.log2 + 1) : Nat) := by exact_mod_cast Nat.lt_log2_self
  have hdl : ((2 ^ den.log2 : Nat) : ℚ) ≤ den := by exact_mod_cast Nat.log2_self_le hd
  have hdu : (den : ℚ) < (2 ^ (den.log2 + 1) : Nat) := by exact_mod_cast Nat.lt_log2_self
  have hpos : (0 : ℚ) < den := by exact_mod_cast Nat.pos_of_ne_zero hd
  have hl : (2 : ℚ) ^ ((num.log2 : ℤ) - den.log2 - 1) = (2 ^ num.log2 : Nat) / (2 ^ (den.log2 + 1) : Nat) := by
    rw [sub_sub, zpow_sub₀ two_ne_zero]
    norm_cast
  have hu : (2 : ℚ) ^ ((num.log2 : ℤ) - den.log2 + 1) = (2 ^ (num.log2 + 1) : Nat) / (2 ^ den.log2 : Nat) := by
    rw [sub_add_eq_add_sub, zpow_sub₀ two_ne_zero]
    norm_cast
  rw [hl, hu]
  constructor
  · exact div_le_div₀ (by positivity) hnl hpos hdu.le
  · exact div_lt_div₀ hnu hdl (by positivity) (by positivity)

/-- The step is chosen so that the ratio has 53 bits before the point, or fewer with the least step. -/
lemma roundingExponent_spec {num den : Nat} {e : ℤ} (hn : num ≠ 0) (hd : den ≠ 0)
    (he : roundingExponent num den = e) : -1074 ≤ e ∧ (num : ℚ) / den / 2 ^ e < 2 ^ 53 ∧
      (e = -1074 ∨ 2 ^ 52 ≤ (num : ℚ) / den / 2 ^ e) := by
  obtain ⟨hl, hu⟩ := ratio_bounds hn hd
  have hstep : ∃ e : ℤ, roundingExponent num den = max e (-1074) ∧
      (num : ℚ) / den < 2 ^ (e + 53) ∧ (2 : ℚ) ^ (e + 52) ≤ num / den := by
    unfold roundingExponent
    refine ⟨_, rfl, ?_⟩
    split
    · rename_i h
      have h := (shift_lt_shift_iff num hd _).mp h
      rw [div_zpow_lt_iff] at h
      refine ⟨?_, ?_⟩
      · convert h using 2
        push_cast
        ring
      · convert hl using 2
        ring
    · rename_i h
      have h := (shift_lt_shift_iff num hd _).not.mp h
      rw [not_lt, le_div_zpow_iff] at h
      refine ⟨?_, h⟩
      convert hu using 2
      ring
  obtain ⟨f, hf, hlt, hle⟩ := hstep
  obtain rfl : max f (-1074) = e := hf.symm.trans he
  rw [div_zpow_lt_iff, le_div_zpow_iff]
  refine ⟨le_max_right _ _, hlt.trans_le (zpow_le_zpow_right₀ one_le_two ?_), ?_⟩
  · have hm : f ≤ max f (-1074) := le_max_left _ _
    push_cast
    omega
  · rcases le_total (-1074) f with h | h
    · rw [max_eq_left h]
      exact .inr (by exact_mod_cast hle)
    · exact .inl (max_eq_right h)

lemma exists_rounded {num den : Nat} (hn : num ≠ 0) (hd : den ≠ 0) :
    ∃ e q, Rounded (num / den) e q ∧ roundedMagnitude num den = (e + 1074).toNat * hiddenBit + q := by
  obtain ⟨hleast, hbelow, habove⟩ := roundingExponent_spec hn hd rfl
  have hne : den <<< (roundingExponent num den).toNat ≠ 0 := by
    rw [Nat.shiftLeft_eq]
    have hpos : 0 < den := Nat.pos_of_ne_zero hd
    positivity
  obtain ⟨hnear, heven⟩ := abs_roundHalfEven_sub (num <<< (-roundingExponent num den).toNat) hne
  rw [shift_div_shift] at hnear heven
  exact ⟨_, _, ⟨hleast, hbelow, habove, hnear, heven⟩, rfl⟩

/-! ### The nearest value -/

/-- No magnitude stands for a real nearer to `x`; and if one stands for another at the same distance, it is the odd
neighbour. Magnitudes past the largest finite one count as well, as if exponents went on. -/
structure Nearest (x : ℚ) (g : Nat) : Prop where
  le (h : Nat) : |value g - x| ≤ |value h - x|
  even (h : Nat) : value h ≠ value g → |value g - x| = |value h - x| → g % 2 = 0

namespace Rounded
variable {x : ℚ} {e : ℤ} {q : Nat}

lemma le (h : Rounded x e q) : q ≤ 2 ^ 53 := by
  have hq : (q : ℚ) < (2 ^ 53 + 1 : Nat) := by
    have hn := (abs_le.mp h.near).2
    have hb := h.below
    push_cast
    linarith
  have hq : q < 2 ^ 53 + 1 := by exact_mod_cast hq
  omega

lemma normal (h : Rounded x e q) : e = -1074 ∨ 2 ^ 52 ≤ q := by
  refine h.above.imp_right fun ha => ?_
  have hq : ((2 ^ 52 : Nat) : ℚ) < q + 1 := by
    have hn := (abs_le.mp h.near).1
    push_cast
    linarith
  have hq : 2 ^ 52 < q + 1 := by exact_mod_cast hq
  omega

lemma value_eq (h : Rounded x e q) : value ((e + 1074).toNat * hiddenBit + q) = q * 2 ^ e :=
  value_magnitude h.least h.le h.normal

lemma value_div (h : Rounded x e q) : value ((e + 1074).toNat * hiddenBit + q) / 2 ^ e = q := by
  rw [h.value_eq, mul_div_cancel_right₀ _ (by positivity)]

/-- Of all multiples of the step, none is nearer. -/
lemma multiple_le (h : Rounded x e q) (k : Nat) :
    |q - x / 2 ^ e| ≤ |k - x / 2 ^ e| ∧ (k ≠ q → |q - x / 2 ^ e| = |k - x / 2 ^ e| → q % 2 = 0) := by
  rcases eq_or_ne k q with rfl | hk
  · exact ⟨le_rfl, fun hk => absurd rfl hk⟩
  have hd : (1 : ℚ) ≤ |(k : ℚ) - q| := by
    have hz : (1 : ℤ) ≤ |(k : ℤ) - q| := Int.one_le_abs (by omega)
    exact_mod_cast hz
  have ht := abs_sub_le (k : ℚ) (x / 2 ^ e) q
  rw [abs_sub_comm (x / 2 ^ e)] at ht
  have hn := h.near
  exact ⟨by linarith, fun _ he => h.even (by linarith)⟩

/-- What is not a multiple of the step lies below all values with 53 bits. -/
lemma grid (h : Rounded x e q) (g : Nat) :
    (∃ k : Nat, value g = k * 2 ^ e) ∨ 2 ^ 52 ≤ x / 2 ^ e ∧ value g / 2 ^ e < 2 ^ 52 := by
  rcases le_or_gt e (exponent g) with hle | hlt
  · obtain ⟨j, hj⟩ := Int.eq_ofNat_of_zero_le (sub_nonneg.mpr hle)
    refine .inl ⟨significand g * 2 ^ j, ?_⟩
    rw [value, ← sub_add_cancel (exponent g) e, hj, zpow_add₀ two_ne_zero]
    push_cast
    rw [zpow_natCast, mul_assoc]
  · have he := le_exponent g
    refine .inr ⟨h.above.resolve_left (by omega), ?_⟩
    rw [div_zpow_lt_iff, value]
    have hs : (significand g : ℚ) < 2 ^ 53 := by exact_mod_cast significand_lt g
    calc (significand g : ℚ) * 2 ^ exponent g < 2 ^ 53 * 2 ^ exponent g := by gcongr
      _ = 2 ^ (exponent g + 53) := by
        rw [zpow_add₀ two_ne_zero, mul_comm]
        norm_cast
      _ ≤ 2 ^ (e + (52 : Nat)) := zpow_le_zpow_right₀ one_le_two (by push_cast; omega)

lemma steps_le (h : Rounded x e q) (g : Nat) : |q - x / 2 ^ e| ≤ |value g / 2 ^ e - x / 2 ^ e| ∧
    (value g / 2 ^ e ≠ q → |q - x / 2 ^ e| = |value g / 2 ^ e - x / 2 ^ e| → q % 2 = 0) := by
  rcases h.grid g with ⟨k, hk⟩ | ⟨hx, hg⟩
  · rw [hk, mul_div_cancel_right₀ _ (by positivity)]
    obtain ⟨hle, heven⟩ := h.multiple_le k
    exact ⟨hle, fun hne => heven (by exact_mod_cast hne)⟩
  · have hb : |q - x / 2 ^ e| ≤ |2 ^ 52 - x / 2 ^ e| := by exact_mod_cast (h.multiple_le (2 ^ 52)).1
    rw [abs_sub_comm (2 ^ 52), abs_of_nonneg (sub_nonneg.mpr hx)] at hb
    have hlt : |q - x / 2 ^ e| < |value g / 2 ^ e - x / 2 ^ e| := by
      rw [abs_sub_comm (value g / 2 ^ e), abs_of_nonneg (by linarith : 0 ≤ x / 2 ^ e - value g / 2 ^ e)]
      linarith
    exact ⟨hlt.le, fun _ he => absurd he hlt.ne⟩

theorem nearest (h : Rounded x e q) : Nearest x ((e + 1074).toNat * hiddenBit + q) := by
  have hpos : (0 : ℚ) < 2 ^ e := by positivity
  -- Distances are compared in steps.
  have hsteps (y : ℚ) : |y - x| = |y / 2 ^ e - x / 2 ^ e| * 2 ^ e := by
    rw [← sub_div, abs_div, abs_of_pos hpos, div_mul_cancel₀ _ hpos.ne']
  refine ⟨fun g => ?_, fun g hne he => ?_⟩
  · rw [hsteps, hsteps (value g), h.value_div]
    exact mul_le_mul_of_nonneg_right (h.steps_le g).1 hpos.le
  · rw [hsteps, hsteps (value g), h.value_div] at he
    have hg : value g / 2 ^ e ≠ q := by
      rw [← h.value_div]
      exact (div_left_inj' hpos.ne').not.mpr hne
    have hq : q % 2 = 0 := (h.steps_le g).2 hg (mul_right_cancel₀ hpos.ne' he)
    rw [hiddenBit_eq]
    omega

/-- Half a step below the first power of two that is out of range. -/
lemma overflow_eq : (2 : ℚ) ^ 1024 - 2 ^ 970 = (2 ^ 53 - 1 / 2) * 2 ^ (971 : ℤ) := by
  have hl : (2 : ℚ) ^ 1024 = 2 ^ 53 * 2 ^ 971 := by rw [← pow_add]
  have hs : (2 : ℚ) ^ 971 = 2 ^ 970 * 2 := pow_succ _ _
  have hz : (2 : ℚ) ^ (971 : ℤ) = 2 ^ 971 := zpow_ofNat _ _
  rw [hz, hl, hs]
  generalize (2 : ℚ) ^ 970 = u
  ring

/-- The result is past the largest finite value where the ratio is, by half a step or more. -/
lemma overflow_iff (h : Rounded x e q) :
    0x7FF <<< 52 ≤ (e + 1074).toNat * hiddenBit + q ↔ 2 ^ 1024 - 2 ^ 970 ≤ x := by
  have hs : 0x7FF <<< 52 = 2047 * 2 ^ 52 := rfl
  have hpos : (0 : ℚ) < 2 ^ (971 : ℤ) := by positivity
  have hq := h.le
  rw [hs, hiddenBit_eq, overflow_eq]
  rcases lt_trichotomy e 971 with he | rfl | he
  case inl =>
    have hl : ¬ 2047 * 2 ^ 52 ≤ (e + 1074).toNat * 2 ^ 52 + q := by omega
    have hx : x < 2 ^ 52 * 2 ^ (971 : ℤ) := by
      have hb := div_zpow_lt_iff.mp h.below
      have hp : (2 : ℚ) ^ (e + (53 : Nat)) ≤ 2 ^ ((971 : ℤ) + (52 : Nat)) :=
        zpow_le_zpow_right₀ one_le_two (by push_cast; omega)
      rw [zpow_add₀ two_ne_zero 971, zpow_natCast, mul_comm (2 ^ (971 : ℤ))] at hp
      exact hb.trans_le hp
    exact iff_of_false hl (not_le.mpr (hx.trans_le (mul_le_mul_of_nonneg_right (by norm_num) hpos.le)))
  case inr.inl =>
    rw [← le_div_iff₀ hpos]
    have hn := abs_le.mp h.near
    constructor
    · intro hl
      have hq : (2 ^ 53 : ℚ) ≤ q := by exact_mod_cast (by omega : 2 ^ 53 ≤ q)
      linarith
    · intro hx
      by_contra hl
      have hq : (q : ℚ) + 1 ≤ 2 ^ 53 := by exact_mod_cast (by omega : q + 1 ≤ 2 ^ 53)
      -- The last value in range is odd, so what is half way goes up.
      have he : |q - x / 2 ^ (971 : ℤ)| = 1 / 2 := by
        rw [abs_sub_comm, abs_of_nonneg (by linarith)]
        linarith
      have heven := h.even he
      have hq : (q : ℚ) + 1 = 2 ^ 53 := by linarith
      have hq : q + 1 = 2 ^ 53 := by exact_mod_cast hq
      omega
  case inr.inr =>
    have hl : 2047 * 2 ^ 52 ≤ (e + 1074).toNat * 2 ^ 52 + q := by
      have hn := h.normal
      omega
    have hx : 2 ^ 53 * 2 ^ (971 : ℤ) ≤ x := by
      have ha := le_div_zpow_iff.mp (h.above.resolve_left (by omega))
      have hp : (2 : ℚ) ^ ((971 : ℤ) + (53 : Nat)) ≤ 2 ^ (e + (52 : Nat)) :=
        zpow_le_zpow_right₀ one_le_two (by push_cast; omega)
      rw [zpow_add₀ two_ne_zero 971, zpow_natCast, mul_comm (2 ^ (971 : ℤ))] at hp
      exact hp.trans ha
    exact iff_of_true hl (hx.trans' (mul_le_mul_of_nonneg_right (by norm_num) hpos.le))

/-- Rounding changes nothing where it need not: integers of 53 bits, shifted, are on the grid. -/
lemma value_eq_iff (h : Rounded x e q) : value ((e + 1074).toNat * hiddenBit + q) = x ↔
    ∃ (m : Nat) (k : ℤ), m < 2 ^ 53 ∧ -1074 ≤ k ∧ x = m * 2 ^ k := by
  constructor
  · intro hx
    exact ⟨_, _, significand_lt _, le_exponent _, hx.symm⟩
  · rintro ⟨m, k, hm, hk, rfl⟩
    have hle : e ≤ k := by
      rcases h.above with he | ha
      · omega
      · rw [le_div_zpow_iff] at ha
        have hm : (m : ℚ) < 2 ^ 53 := by exact_mod_cast hm
        have hlt : (2 : ℚ) ^ (e + (52 : Nat)) < 2 ^ (k + (53 : Nat)) := by
          rw [zpow_add₀ two_ne_zero k, zpow_natCast, mul_comm (2 ^ k)]
          exact ha.trans_lt (by gcongr)
        have hlt := (zpow_lt_zpow_iff_right₀ one_lt_two).mp hlt
        push_cast at hlt
        omega
    obtain ⟨j, hj⟩ := Int.eq_ofNat_of_zero_le (sub_nonneg.mpr hle)
    have hx : (m : ℚ) * 2 ^ k / 2 ^ e = (m * 2 ^ j : Nat) := by
      rw [← sub_add_cancel k e, hj, zpow_add₀ two_ne_zero, ← mul_assoc, mul_div_cancel_right₀ _ (by positivity)]
      norm_cast
    have hq := (h.multiple_le (m * 2 ^ j)).1
    rw [hx, sub_self, abs_zero, abs_nonpos_iff, sub_eq_zero, ← hx] at hq
    rw [h.value_eq, hq, div_mul_cancel₀ _ (by positivity)]

end Rounded

/-! ### Results -/

/-- The largest finite value is half a step below what is rounded to infinity. -/
lemma value_lt {g : Nat} (h : g < 0x7FF <<< 52) : value g < 2 ^ 1024 - 2 ^ 970 := by
  have hs : (significand g : ℚ) ≤ 2 ^ 53 - 1 := by
    have hs : significand g + 1 ≤ 2 ^ 53 := significand_lt g
    have hs : (significand g : ℚ) + 1 ≤ 2 ^ 53 := by exact_mod_cast hs
    linarith
  calc value g ≤ (2 ^ 53 - 1) * 2 ^ (971 : ℤ) := by
        rw [value]
        gcongr
        · norm_num
        · exact exponent_le h
    _ = 2 ^ 1024 - 2 ^ 971 := by rw [zpow_ofNat, sub_mul, one_mul, ← pow_add]
    _ < 2 ^ 1024 - 2 ^ 970 := sub_lt_sub_left (pow_lt_pow_right₀ one_lt_two (by omega)) _

/-- The real that a value stands for. -/
def value? : Binary64 → Option ℚ
  | finite negative g => some (if negative then -value g else value g)
  | _ => none

/-- The result for a real that is not negative: the nearest value, and infinity from half a step past the largest
finite one on. -/
inductive IsResult (x : ℚ) : Binary64 → Prop
  | finite {g : Fin (0x7FF <<< 52)} (h : Nearest x g) (hx : x < 2 ^ 1024 - 2 ^ 970) : IsResult x (finite false g)
  | infinite (hx : 2 ^ 1024 - 2 ^ 970 ≤ x) : IsResult x (infinite false)

lemma value_zero : value 0 = 0 := by
  have h : significand 0 = 0 := by decide
  rw [value, h, Nat.cast_zero, zero_mul]

lemma isResult_zero : IsResult 0 (finite false ⟨0, by decide⟩) := by
  have hx : (0 : ℚ) < 2 ^ 1024 - 2 ^ 970 := sub_pos.mpr (pow_lt_pow_right₀ one_lt_two (by omega))
  refine .finite ⟨fun h => ?_, fun _ _ _ => rfl⟩ hx
  rw [value_zero, sub_self, abs_zero]
  exact abs_nonneg _

theorem isResult_ofRatio (num : Nat) {den : Nat} (hd : den ≠ 0) :
    IsResult (num / den) (ofRatio false num den) := by
  rcases eq_or_ne num 0 with rfl | hn
  · simpa [ofRatio] using isResult_zero
  obtain ⟨e, q, h, hg⟩ := exists_rounded hn hd
  have hnear := h.nearest
  have hover := h.overflow_iff
  rw [← hg] at hnear hover
  rw [ofRatio, if_neg hn, ofMagnitude]
  split
  · rename_i hl
    exact .finite hnear (not_le.mp (hover.not.mp (not_le.mpr hl)))
  · rename_i hl
    exact .infinite (hover.mp (not_lt.mp hl))

/-- The integers that a floating-point value of any size can be: 53 bits, shifted. -/
def IsShort (n : Nat) : Prop := ∃ m k : Nat, m < 2 ^ 53 ∧ n = m * 2 ^ k

/-- A shift to the right leaves less than 53 bits. -/
lemma isShort_iff {n : Nat} :
    IsShort n ↔ ∃ (m : Nat) (k : ℤ), m < 2 ^ 53 ∧ -1074 ≤ k ∧ (n : ℚ) = m * 2 ^ k := by
  constructor
  · rintro ⟨m, k, hm, rfl⟩
    exact ⟨m, k, hm, by omega, by push_cast; rw [zpow_natCast]⟩
  · rintro ⟨m, k, hm, -, hn⟩
    rcases le_or_gt 0 k with hk | hk
    · obtain ⟨j, rfl⟩ := Int.eq_ofNat_of_zero_le hk
      exact ⟨m, j, hm, by exact_mod_cast hn⟩
    · have hp : (2 : ℚ) ^ k ≤ 1 := zpow_le_one_of_nonpos₀ one_le_two hk.le
      have hl : (n : ℚ) ≤ m := by
        rw [hn]
        exact mul_le_of_le_one_right (Nat.cast_nonneg m) hp
      have hl : n ≤ m := by exact_mod_cast hl
      exact ⟨n, 0, by omega, by simp⟩

lemma isShort_of_value_eq {g n : Nat} (h : value g = n) : IsShort n :=
  isShort_iff.mpr ⟨_, _, significand_lt g, le_exponent g, h.symm⟩

/-- An integer is kept where it can be. -/
theorem value?_ofRatio_iff {n : Nat} (hn : n ≠ 0) : (ofRatio false n 1).value? = some (n : ℚ) ↔
    (n : ℚ) < 2 ^ 1024 - 2 ^ 970 ∧ IsShort n := by
  obtain ⟨e, q, h, hg⟩ := exists_rounded hn one_ne_zero
  have hover := h.overflow_iff
  have hvalue := h.value_eq_iff
  rw [Nat.cast_one, div_one, ← hg] at hover hvalue
  rw [ofRatio, if_neg hn, ofMagnitude, isShort_iff, ← hvalue]
  split
  · rename_i hl
    have hx := not_le.mp (hover.not.mp (not_le.mpr hl))
    simp [value?, hx]
  · rename_i hl
    have hx := not_lt.mpr (hover.mp (not_lt.mp hl))
    simp [value?, hx]

end Binary64
end Listing
