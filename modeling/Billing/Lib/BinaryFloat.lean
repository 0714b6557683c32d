/-
  Binary floating-point numbers, and how they are written in decimal.

  A format has a number of bits, a smallest unit and a bound; its positive floats are `m * 2^e`.  `nearest`
  rounds a number to the float next to it, ties to the even one.  A float is printed by the shortest decimal
  that is rounded back to it (`Shortest`).

  Two counts of digits say how far decimal and binary agree, for `p` bits:
  1. **decimals of `n` digits survive** when `10^n < 2^(p-1)`: no two of them have the same nearest float
     (`eq_of_nearest_eq`), so that the one which was read is the one that is printed;
  2. **`n` digits are enough** when `2^p < 10^(n-1)`: every float is the nearest to some decimal of `n`
     digits (`exists_fits`), so that no printed float has more.
-/
import Mathlib.Algebra.Order.Field.Rat
import Mathlib.Algebra.Order.Floor.Semiring
import Mathlib.Data.Int.Log
import Mathlib.Data.Rat.Floor
import Mathlib.Tactic.FieldSimp
import Mathlib.Tactic.Linarith
import Mathlib.Tactic.Positivity
import Mathlib.Tactic.Ring

namespace Py

namespace BinaryFloat

/-! ## Rounding to an integer -/

/-- The nearest integer, ties to the even one. -/
def roundEven (q : ℚ) : Int :=
  if q - ⌊q⌋ < 1 / 2 then ⌊q⌋
  else if 1 / 2 < q - ⌊q⌋ then ⌊q⌋ + 1
  else if ⌊q⌋ % 2 = 0 then ⌊q⌋
  else ⌊q⌋ + 1

/-- It is half a unit away at most. -/
theorem abs_roundEven_sub_le (q : ℚ) : |(roundEven q : ℚ) - q| ≤ 1 / 2 := by
  have hfloor := Int.floor_le q
  have hceil := Int.lt_floor_add_one q
  unfold roundEven
  rw [abs_le]
  split_ifs <;> push_cast <;> constructor <;> linarith

/-- An integer that is less than half a unit away is the nearest. -/
theorem roundEven_eq {q : ℚ} {n : Int} (h : |q - n| < 1 / 2) : roundEven q = n := by
  have hround := abs_le.mp (abs_roundEven_sub_le q)
  have hnear := abs_lt.mp h
  have hlow : (roundEven q : ℚ) < ((n + 1 : Int) : ℚ) := by push_cast; linarith
  have hhigh : ((n - 1 : Int) : ℚ) < (roundEven q : ℚ) := by push_cast; linarith
  have hlow' := Int.cast_lt.mp hlow
  have hhigh' := Int.cast_lt.mp hhigh
  omega

theorem roundEven_intCast (n : Int) : roundEven (n : ℚ) = n := by
  refine roundEven_eq ?_
  rw [sub_self, abs_zero]
  norm_num

/-- Two numbers that are rounded the other way round would be a whole unit apart in the wrong order. -/
theorem roundEven_mono {q r : ℚ} (h : q ≤ r) : roundEven q ≤ roundEven r := by
  by_contra hnot
  have hstep : ((roundEven r + 1 : Int) : ℚ) ≤ (roundEven q : ℚ) := Int.cast_le.mpr (by omega)
  have hq := abs_le.mp (abs_roundEven_sub_le q)
  have hr := abs_le.mp (abs_roundEven_sub_le r)
  push_cast at hstep
  have hsame : q = r := by linarith
  rw [hsame] at hnot
  exact hnot le_rfl

/-! ## Formats -/

/-- A format of floats. -/
structure Format where
  /-- The number of bits. -/
  precision : Nat
  /-- The exponent of the smallest positive float. -/
  minUnit : Int
  /-- The floats are below `2^limit`. -/
  limit : Int
  /-- There is a bit. -/
  positive : 0 < precision
  /-- All bits can be used. -/
  roomy : minUnit + precision ≤ limit

/-- The doubles. -/
def binary64 : Format := ⟨53, -1074, 1024, by decide, by decide⟩

variable (F : Format)

/-- The exponent of the last place of the floats around a number. -/
def unit (q : ℚ) : Int := max (Int.log 2 q + 1 - F.precision) F.minUnit

/-- **The nearest float**, ties to the even one, of a format without a bound. -/
def nearest (q : ℚ) : ℚ := roundEven (q / 2 ^ unit F q) * 2 ^ unit F q

/-- The floats of the format that are not negative. -/
structure IsFloat (x : ℚ) : Prop where
  /-- A float has `precision` bits. -/
  bits : ∃ (m : Nat) (e : Int), m < 2 ^ F.precision ∧ F.minUnit ≤ e ∧ x = m * 2 ^ e
  /-- It is below the bound. -/
  bounded : x < 2 ^ F.limit

variable {F} {q r x : ℚ}

theorem zpow_two_pos (e : Int) : (0 : ℚ) < 2 ^ e := zpow_pos (by norm_num) e

theorem zpow_two_le {e f : Int} (h : e ≤ f) : (2 : ℚ) ^ e ≤ 2 ^ f :=
  zpow_le_zpow_right₀ (by norm_num) h

/-- A multiple of a power is one of every smaller power. -/
theorem zpow_split {b : ℚ} (hb : b ≠ 0) {e f : Int} (h : f ≤ e) :
    b ^ e = b ^ (e - f).toNat * b ^ f := by
  rw [← zpow_natCast, ← zpow_add₀ hb, Int.toNat_of_nonneg (by omega)]
  congr 1
  omega

/-! ## The last place -/

theorem minUnit_le_unit (F : Format) (q : ℚ) : F.minUnit ≤ unit F q := le_max_right _ _

/-- A number has `precision` bits above its last place at most. -/
theorem lt_zpow_unit (F : Format) (q : ℚ) : q < 2 ^ (unit F q + F.precision) := by
  have hlog : q < ((2 : Nat) : ℚ) ^ (Int.log 2 q + 1) := Int.lt_zpow_succ_log_self (by decide) q
  have hunit : Int.log 2 q + 1 ≤ unit F q + F.precision := by
    unfold unit
    omega
  exact hlog.trans_le (zpow_two_le hunit)

theorem unit_mono (hq : 0 < q) (h : q ≤ r) : unit F q ≤ unit F r := by
  have hlog : Int.log 2 q ≤ Int.log 2 r := Int.log_mono_right hq h
  unfold unit
  omega

/-- Where the last place is not the smallest, all bits are used. -/
theorem zpow_unit_le (hq : 0 < q) (h : F.minUnit < unit F q) :
    2 ^ (unit F q + F.precision - 1) ≤ q := by
  have hlog : ((2 : Nat) : ℚ) ^ Int.log 2 q ≤ q := Int.zpow_log_le_self (by decide) hq
  have hunit : unit F q + F.precision - 1 = Int.log 2 q := by
    unfold unit at h ⊢
    omega
  rw [hunit]
  exact hlog

/-- The numbers from here on use all bits. -/
def Normal (F : Format) (q : ℚ) : Prop := 2 ^ (F.minUnit + F.precision - 1) ≤ q

theorem Normal.pos (h : Normal F q) : 0 < q := (zpow_two_pos _).trans_le h

theorem Normal.zpow_unit_le (h : Normal F q) : 2 ^ (unit F q + F.precision - 1) ≤ q := by
  rcases (minUnit_le_unit F q).lt_or_eq with hunit | hunit
  · exact BinaryFloat.zpow_unit_le h.pos hunit
  · rw [← hunit]
    exact h

/-! ## The nearest float -/

/-- It is half a unit of the last place away at most. -/
theorem abs_nearest_sub_le (F : Format) (q : ℚ) : |nearest F q - q| ≤ 2 ^ unit F q / 2 := by
  have hpos := zpow_two_pos (unit F q)
  have hround := abs_roundEven_sub_le (q / 2 ^ unit F q)
  have hscale : nearest F q - q = (roundEven (q / 2 ^ unit F q) - q / 2 ^ unit F q) * 2 ^ unit F q := by
    unfold nearest
    rw [sub_mul, div_mul_cancel₀ q hpos.ne']
  rw [hscale, abs_mul, abs_of_pos hpos]
  have hmul := mul_le_mul_of_nonneg_right hround hpos.le
  linarith

/-- A number on the grid that is less than half a unit away is the nearest. -/
theorem nearest_eq {m : Int} (hx : x = m * 2 ^ unit F q) (h : 2 * |q - x| < 2 ^ unit F q) :
    nearest F q = x := by
  have hpos := zpow_two_pos (unit F q)
  have hround : roundEven (q / 2 ^ unit F q) = m := by
    refine roundEven_eq ?_
    have hscale : q / 2 ^ unit F q - m = (q - x) / 2 ^ unit F q := by
      rw [sub_div, hx, mul_div_cancel_right₀ _ hpos.ne']
    rw [hscale, abs_div, abs_of_pos hpos, div_lt_iff₀ hpos]
    linarith
  unfold nearest
  rw [hround, hx]

/-- What is on the grid bounds the nearest float, if it bounds the number. -/
theorem nearest_le {n : Int} (h : q ≤ n * 2 ^ unit F q) : nearest F q ≤ n * 2 ^ unit F q := by
  have hpos := zpow_two_pos (unit F q)
  have hround : roundEven (q / 2 ^ unit F q) ≤ n := by
    rw [← roundEven_intCast n]
    exact roundEven_mono ((div_le_iff₀ hpos).mpr h)
  exact mul_le_mul_of_nonneg_right (Int.cast_le.mpr hround) hpos.le

theorem le_nearest {n : Int} (h : n * 2 ^ unit F q ≤ q) : n * 2 ^ unit F q ≤ nearest F q := by
  have hpos := zpow_two_pos (unit F q)
  have hround : n ≤ roundEven (q / 2 ^ unit F q) := by
    rw [← roundEven_intCast n]
    exact roundEven_mono ((le_div_iff₀ hpos).mpr h)
  exact mul_le_mul_of_nonneg_right (Int.cast_le.mpr hround) hpos.le

theorem nearest_nonneg (hq : 0 ≤ q) : 0 ≤ nearest F q := by
  have hzero : ((0 : Int) : ℚ) * 2 ^ unit F q ≤ q := by
    rw [Int.cast_zero, zero_mul]
    exact hq
  have hnearest := le_nearest hzero
  rwa [Int.cast_zero, zero_mul] at hnearest

/-- A power of two from the last place on is on the grid. -/
theorem zpow_eq_multiple {e f : Int} (h : f ≤ e) : ∃ n : Int, (2 : ℚ) ^ e = n * 2 ^ f :=
  ⟨2 ^ (e - f).toNat, by push_cast; exact zpow_split (by norm_num) h⟩

/-- **Rounding keeps the order.**  Where the last places differ, a power of two is between the two. -/
theorem nearest_mono (hq : 0 < q) (h : q ≤ r) : nearest F q ≤ nearest F r := by
  rcases (unit_mono (F := F) hq h).lt_or_eq with hunit | hunit
  · have hr : 2 ^ (unit F r + F.precision - 1) ≤ r :=
      zpow_unit_le (hq.trans_le h) ((minUnit_le_unit F q).trans_lt hunit)
    have hpositive := F.positive
    have hbelow : q ≤ 2 ^ (unit F r + F.precision - 1) :=
      (lt_zpow_unit F q).le.trans (zpow_two_le (by omega))
    obtain ⟨n, hn⟩ := zpow_eq_multiple (by omega : unit F q ≤ unit F r + F.precision - 1)
    obtain ⟨n', hn'⟩ := zpow_eq_multiple (by omega : unit F r ≤ unit F r + F.precision - 1)
    calc nearest F q ≤ 2 ^ (unit F r + F.precision - 1) := by
          rw [hn] at hbelow ⊢
          exact nearest_le hbelow
      _ ≤ nearest F r := by
          rw [hn'] at hr ⊢
          exact le_nearest hr
  · have hpos := zpow_two_pos (unit F r)
    have hround : roundEven (q / 2 ^ unit F r) ≤ roundEven (r / 2 ^ unit F r) :=
      roundEven_mono (div_le_div_of_nonneg_right h hpos.le)
    unfold nearest
    rw [hunit]
    exact mul_le_mul_of_nonneg_right (Int.cast_le.mpr hround) hpos.le

/-- A float is on its own grid. -/
theorem IsFloat.multiple (h : IsFloat F x) (hx : 0 < x) : ∃ m : Int, x = m * 2 ^ unit F x := by
  obtain ⟨m, e, hm, he, hxm⟩ := h.bits
  have hlt : x < ((2 : Nat) : ℚ) ^ ((F.precision : Int) + e) := by
    rw [hxm, Nat.cast_ofNat, zpow_add₀ (by norm_num), zpow_natCast]
    refine mul_lt_mul_of_pos_right ?_ (zpow_two_pos e)
    exact_mod_cast hm
  have hlog : Int.log 2 x < F.precision + e := (Int.lt_zpow_iff_log_lt (by decide) hx).mp hlt
  have hunit : unit F x ≤ e := by
    unfold unit
    omega
  obtain ⟨n, hn⟩ := zpow_eq_multiple hunit
  refine ⟨m * n, ?_⟩
  push_cast
  rw [mul_assoc, ← hn]
  exact hxm

theorem IsFloat.nearest_eq (h : IsFloat F x) (hx : 0 < x) : nearest F x = x := by
  obtain ⟨m, hm⟩ := h.multiple hx
  refine BinaryFloat.nearest_eq hm ?_
  rw [sub_self, abs_zero, mul_zero]
  exact zpow_two_pos _

/-- What is between a float and a number that is rounded to it is rounded to it. -/
theorem IsFloat.nearest_eq_of_le (h : IsFloat F x) (hq : 0 < q) (hqr : q ≤ r) (hrx : r ≤ x)
    (hnearest : nearest F q = x) : nearest F r = x := by
  have hr := hq.trans_le hqr
  refine le_antisymm ?_ ?_
  · exact (nearest_mono hr hrx).trans_eq (h.nearest_eq (hr.trans_le hrx))
  · exact hnearest.symm.trans_le (nearest_mono hq hqr)

theorem IsFloat.nearest_eq_of_ge (h : IsFloat F x) (hx : 0 < x) (hxr : x ≤ r) (hrq : r ≤ q)
    (hnearest : nearest F q = x) : nearest F r = x := by
  refine le_antisymm ?_ ?_
  · exact (nearest_mono (hx.trans_le hxr) hrq).trans_eq hnearest
  · exact (h.nearest_eq hx).symm.trans_le (nearest_mono hx hxr)

/-- **What is rounded below the bound is a float.** -/
theorem isFloat_nearest (hq : 0 < q) (h : nearest F q < 2 ^ F.limit) : IsFloat F (nearest F q) := by
  have hpos := zpow_two_pos (unit F q)
  have hround : 0 ≤ roundEven (q / 2 ^ unit F q) := by
    rw [← roundEven_intCast 0]
    refine roundEven_mono ?_
    rw [Int.cast_zero]
    positivity
  obtain ⟨n, hn⟩ := Int.eq_ofNat_of_zero_le hround
  have hnearest : nearest F q = n * 2 ^ unit F q := by
    unfold nearest
    rw [hn]
    rfl
  have htop : (n : ℚ) ≤ 2 ^ F.precision := by
    have hlt := lt_zpow_unit F q
    rw [zpow_add₀ (by norm_num), zpow_natCast, mul_comm] at hlt
    have hle : q ≤ ((2 ^ F.precision : Int) : ℚ) * 2 ^ unit F q := by
      push_cast
      exact hlt.le
    have hbound := nearest_le hle
    rw [hnearest] at hbound
    have hcancel := le_of_mul_le_mul_right hbound hpos
    push_cast at hcancel
    exact hcancel
  have hmin := minUnit_le_unit F q
  refine ⟨?_, h⟩
  rcases htop.lt_or_eq with hlt | heq
  · exact ⟨n, unit F q, by exact_mod_cast hlt, hmin, hnearest⟩
  · -- the next power of two has one bit
    have hpositive := F.positive
    refine ⟨2 ^ (F.precision - 1), unit F q + 1, Nat.pow_lt_pow_right (by decide) (by omega), by omega, ?_⟩
    rw [hnearest, heq, zpow_add₀ (by norm_num), zpow_one]
    push_cast
    rw [← Nat.sub_add_cancel hpositive, pow_succ, Nat.add_sub_cancel]
    ring

/-! ## Decimals -/

/-- The number has `n` significant decimal digits at most. -/
def Fits (n : Nat) (v : ℚ) : Prop := ∃ (c : Nat) (e : Int), c < 10 ^ n ∧ v = c * 10 ^ e

variable {n : Nat} {v w : ℚ}

theorem zpow_ten_pos (e : Int) : (0 : ℚ) < 10 ^ e := zpow_pos (by norm_num) e

theorem fits_mono {n' : Nat} (hn : n ≤ n') (h : Fits n v) : Fits n' v := by
  obtain ⟨c, e, hc, hv⟩ := h
  exact ⟨c, e, hc.trans_le (Nat.pow_le_pow_right (by decide) hn), hv⟩

/-- A positive number has a digit. -/
theorem pos_of_fits (hv : 0 < v) (h : Fits n v) : 0 < n := by
  by_contra hzero
  obtain ⟨c, e, hc, rfl⟩ := h
  rw [Nat.eq_zero_of_not_pos hzero, pow_zero] at hc
  rw [Nat.lt_one_iff.mp hc, Nat.cast_zero, zero_mul] at hv
  exact lt_irrefl _ hv

/-- A coefficient that does not end with a zero has all its digits. -/
theorem not_fits {c : Nat} {e : Int} (hten : ¬ 10 ∣ c) (hc : 10 ^ n ≤ c) : ¬ Fits n (c * 10 ^ e) := by
  rintro ⟨d, f, hd, heq⟩
  have hten' : (10 : ℚ) ≠ 0 := by norm_num
  rcases lt_or_ge e f with hlt | hge
  · rw [zpow_split hten' hlt.le, ← mul_assoc] at heq
    have hcancel := mul_right_cancel₀ (zpow_ten_pos e).ne' heq
    have hnat : c = d * 10 ^ (f - e).toNat := by exact_mod_cast hcancel
    have hpos : (f - e).toNat ≠ 0 := by omega
    exact hten (hnat ▸ (dvd_pow_self 10 hpos).mul_left d)
  · rw [zpow_split hten' hge, ← mul_assoc] at heq
    have hcancel := mul_right_cancel₀ (zpow_ten_pos f).ne' heq
    have hnat : c * 10 ^ (e - f).toNat = d := by exact_mod_cast hcancel
    have hle : c ≤ c * 10 ^ (e - f).toNat := Nat.le_mul_of_pos_right c (by positivity)
    omega

/-- Two different decimals of `n` digits are apart. -/
theorem lt_abs_sub_of_fits (hv : Fits n v) (hw : Fits n w) (hne : v ≠ w) :
    min v w < |v - w| * 10 ^ n := by
  wlog hexp : ∃ (c d : Nat) (e f : Int), c < 10 ^ n ∧ v = c * 10 ^ e ∧ w = d * 10 ^ f ∧ e ≤ f generalizing v w
  · obtain ⟨c, e, hc, rfl⟩ := hv
    obtain ⟨d, f, hd, rfl⟩ := hw
    rw [min_comm, abs_sub_comm]
    refine this ⟨d, f, hd, rfl⟩ ⟨c, e, hc, rfl⟩ hne.symm ⟨d, c, f, e, hd, rfl, rfl, ?_⟩
    by_contra hfe
    exact hexp ⟨c, d, e, f, hc, rfl, rfl, by omega⟩
  obtain ⟨c, d, e, f, hc, hcv, hdw, hef⟩ := hexp
  -- both are on the grid of the smaller exponent, and that one has few digits there
  have hpos := zpow_ten_pos e
  have hdiff : v - w = ((c - d * 10 ^ (f - e).toNat : Int) : ℚ) * 10 ^ e := by
    rw [hcv, hdw, zpow_split (by norm_num) hef]
    push_cast
    ring
  have hone : (1 : ℚ) ≤ |((c - d * 10 ^ (f - e).toNat : Int) : ℚ)| := by
    have hnonzero : (c - d * 10 ^ (f - e).toNat : Int) ≠ 0 := by
      intro hzero
      rw [hzero, Int.cast_zero, zero_mul] at hdiff
      exact hne (sub_eq_zero.mp hdiff)
    exact_mod_cast Int.one_le_abs hnonzero
  have hdigits : (c : ℚ) < 10 ^ n := by exact_mod_cast hc
  calc min v w ≤ v := min_le_left v w
    _ = c * 10 ^ e := hcv
    _ < 10 ^ n * 10 ^ e := mul_lt_mul_of_pos_right hdigits hpos
    _ = 1 * 10 ^ e * 10 ^ n := by ring
    _ ≤ |v - w| * 10 ^ n := by
      rw [hdiff, abs_mul, abs_of_pos hpos]
      have hpow : (0 : ℚ) < 10 ^ n := by positivity
      exact mul_le_mul_of_nonneg_right (mul_le_mul_of_nonneg_right hone hpos.le) hpow.le

/-- What is above the first bit of a number is above the error, all bits on. -/
theorem abs_nearest_sub_mul_le {b : ℚ} (h : 2 ^ (unit F q + F.precision - 1) ≤ b) :
    |nearest F q - q| * 2 ^ F.precision ≤ b := by
  have herror := abs_nearest_sub_le F q
  have hsplit : (2 : ℚ) ^ (unit F q + F.precision - 1) = 2 ^ unit F q / 2 * 2 ^ F.precision := by
    rw [zpow_sub₀ (by norm_num), zpow_add₀ (by norm_num), zpow_natCast, zpow_one]
    ring
  have hpow : (0 : ℚ) < 2 ^ F.precision := by positivity
  calc |nearest F q - q| * 2 ^ F.precision ≤ 2 ^ unit F q / 2 * 2 ^ F.precision :=
        mul_le_mul_of_nonneg_right herror hpow.le
    _ = 2 ^ (unit F q + F.precision - 1) := hsplit.symm
    _ ≤ b := h

/-- A normal number is rounded by a small part of it. -/
theorem Normal.abs_nearest_sub_le (h : Normal F q) : |nearest F q - q| * 2 ^ F.precision ≤ q :=
  abs_nearest_sub_mul_le h.zpow_unit_le

theorem Normal.nearest_pos (h : Normal F q) : 0 < nearest F q := by
  have herror := h.abs_nearest_sub_le
  have hbits : (2 : ℚ) ≤ 2 ^ F.precision := le_self_pow₀ (by norm_num) F.positive.ne'
  have hmul := mul_le_mul_of_nonneg_left hbits (abs_nonneg (nearest F q - q))
  have hdist := neg_abs_le (nearest F q - q)
  have hpos := h.pos
  linarith

/-! ## Decimals that survive -/

/-- Next to a normal number the others are not rounded by more. -/
theorem Normal.abs_nearest_sub_le_max (h : Normal F v) (hw : 0 < w) :
    |nearest F w - w| * 2 ^ F.precision ≤ max v w := by
  by_cases hnormal : Normal F w
  · exact hnormal.abs_nearest_sub_le.trans (le_max_right v w)
  · have hunit : unit F w = F.minUnit := by
      by_contra hne
      have hlt : F.minUnit < unit F w := lt_of_le_of_ne (minUnit_le_unit F w) (Ne.symm hne)
      exact hnormal ((zpow_two_le (by omega)).trans (BinaryFloat.zpow_unit_le hw hlt))
    have hfirst : 2 ^ (unit F w + F.precision - 1) ≤ v := by
      rw [hunit]
      exact h
    exact (abs_nearest_sub_mul_le hfirst).trans (le_max_left v w)

/-- **Decimals with few digits survive**: no two of them have the same nearest float. -/
theorem eq_of_nearest_eq (hn : 10 ^ n < 2 ^ (F.precision - 1)) (hv : Fits n v) (hw : Fits n w)
    (hnormal : Normal F v) (hpos : 0 < w) (h : nearest F v = nearest F w) : v = w := by
  by_contra hne
  have hgap := lt_abs_sub_of_fits hv hw hne
  have hdiff := max_sub_min_eq_abs' v w
  have hleft := hnormal.abs_nearest_sub_le
  have hright := hnormal.abs_nearest_sub_le_max hpos
  have hmax := le_max_left v w
  have hfar : 0 < |v - w| := abs_pos.mpr (sub_ne_zero.mpr hne)
  have hbits : (2 : ℚ) ^ F.precision = 2 * 2 ^ (F.precision - 1) := by
    rw [← pow_succ', Nat.sub_add_cancel F.positive]
  have hnat : (10 : ℚ) ^ n + 1 ≤ 2 ^ (F.precision - 1) := by exact_mod_cast hn
  -- the two are no further apart than both errors together
  have herrors : |v - w| * 2 ^ F.precision ≤ 2 * max v w := by
    have htriangle : |v - w| ≤ |nearest F v - v| + |nearest F w - w| := by
      rw [abs_sub_comm (nearest F v) v, h]
      exact abs_sub_le v (nearest F w) w
    have hpow : (0 : ℚ) < 2 ^ F.precision := by positivity
    have hmul := mul_le_mul_of_nonneg_right htriangle hpow.le
    rw [add_mul] at hmul
    linarith
  have hclose : |v - w| * 2 ^ (F.precision - 1) < |v - w| * (10 ^ n + 1) := by
    rw [hbits] at herrors
    linarith
  exact absurd (lt_of_mul_lt_mul_left hclose hfar.le) (not_lt.mpr hnat)

/-! ## Digits that are enough -/

/-- What is close enough to a float is rounded to it. -/
theorem nearest_of_close {N : Nat} (hN : 2 ^ F.precision < N) (hx : IsFloat F x) (hpos : 0 < x)
    (hv : 0 < v) (h : 2 * |v - x| * N ≤ x) : nearest F v = x := by
  have hN' : (2 : ℚ) ^ F.precision + 1 ≤ N := by exact_mod_cast hN
  have hbits : (1 : ℚ) ≤ 2 ^ F.precision := one_le_pow₀ (by norm_num)
  obtain ⟨m, hm⟩ := hx.multiple hpos
  rcases le_or_gt (unit F v) (unit F x) with hunit | hunit
  · obtain ⟨k, hk⟩ := zpow_eq_multiple hunit
    have hgrid : x = ((m * k : Int) : ℚ) * 2 ^ unit F v := by
      push_cast
      rw [mul_assoc, ← hk]
      exact hm
    refine nearest_eq hgrid ?_
    have hlt := lt_zpow_unit F v
    rw [zpow_add₀ (by norm_num), zpow_natCast] at hlt
    have hdist := neg_abs_le (v - x)
    by_contra hfar
    have hfar := not_lt.mp hfar
    have hmul := mul_le_mul_of_nonneg_left hN' (abs_nonneg (v - x))
    have hmul' := mul_le_mul_of_nonneg_right hfar (by linarith : (0 : ℚ) ≤ 2 ^ F.precision)
    have hpositive := zpow_two_pos (unit F v)
    linarith
  · -- a power of two would be between the two, and the last place of the float below it
    have hpositive := F.positive
    have hpower := zpow_unit_le hv ((minUnit_le_unit F x).trans_lt hunit)
    have hlt := lt_zpow_unit F x
    have hbelow : x < 2 ^ (unit F v + F.precision - 1) := hlt.trans_le (zpow_two_le (by omega))
    obtain ⟨k, hk⟩ := zpow_eq_multiple (by omega : unit F x ≤ unit F v + F.precision - 1)
    have hunitPos := zpow_two_pos (unit F x)
    have hstep : 2 ^ unit F x ≤ 2 ^ (unit F v + F.precision - 1) - x := by
      have hbelow : (m : ℚ) * 2 ^ unit F x < k * 2 ^ unit F x := by
        rw [← hm, ← hk]
        exact hbelow
      have hint : m + 1 ≤ k := Int.cast_lt.mp (lt_of_mul_lt_mul_right hbelow hunitPos.le)
      have hcast : ((m : ℚ) + 1) ≤ k := by exact_mod_cast hint
      have hmul := mul_le_mul_of_nonneg_right hcast hunitPos.le
      linarith
    rw [zpow_add₀ (by norm_num), zpow_natCast] at hlt
    have hdist := le_abs_self (v - x)
    have hfar : 2 ^ unit F x ≤ |v - x| := by linarith
    have hmul := mul_le_mul hfar hN' (by linarith) (abs_nonneg (v - x))
    linarith

/-- A number between two powers of ten, by its digits. -/
theorem log_ten (hx : 0 < x) : (10 : ℚ) ^ Int.log 10 x ≤ x ∧ x < 10 ^ (Int.log 10 x + 1) :=
  ⟨Int.zpow_log_le_self (by decide) hx, Int.lt_zpow_succ_log_self (by decide) x⟩

/-- A coefficient of `n` digits, or the next power of ten. -/
theorem fits_of_le {c : Nat} {e : Int} (hn : 0 < n) (hc : c ≤ 10 ^ n) : Fits n (c * 10 ^ e) := by
  rcases hc.lt_or_eq with hlt | heq
  · exact ⟨c, e, hlt, rfl⟩
  · refine ⟨1, n + e, Nat.one_lt_pow hn.ne' (by decide), ?_⟩
    rw [heq, zpow_add₀ (by norm_num), zpow_natCast]
    push_cast
    ring

/-- **`n` digits are enough**: every float is the nearest to a decimal of `n` digits. -/
theorem exists_fits (hn : 2 ^ F.precision < 10 ^ (n - 1)) (hx : IsFloat F x) (hpos : 0 < x) :
    ∃ v, 0 < v ∧ Fits n v ∧ nearest F v = x := by
  obtain ⟨hlow, hhigh⟩ := log_ten hpos
  have hdigits : 0 < n := by
    by_contra hzero
    rw [Nat.eq_zero_of_not_pos hzero] at hn
    exact absurd hn (not_lt.mpr (Nat.one_le_two_pow))
  generalize hexp : Int.log 10 x + 1 - n = e
  have he := zpow_ten_pos e
  have hscale : (10 : ℚ) ^ Int.log 10 x = ((10 ^ (n - 1) : Int) : ℚ) * 10 ^ e := by
    push_cast
    rw [← zpow_natCast, ← zpow_add₀ (by norm_num)]
    congr 1
    omega
  have hscale' : (10 : ℚ) ^ (Int.log 10 x + 1) = ((10 ^ n : Int) : ℚ) * 10 ^ e := by
    push_cast
    rw [← zpow_natCast, ← zpow_add₀ (by norm_num)]
    congr 1
    omega
  have hatLeast : (10 ^ (n - 1) : Int) ≤ roundEven (x / 10 ^ e) := by
    rw [← roundEven_intCast (10 ^ (n - 1))]
    refine roundEven_mono ((le_div_iff₀ he).mpr ?_)
    rwa [← hscale]
  have hatMost : roundEven (x / 10 ^ e) ≤ 10 ^ n := by
    rw [← roundEven_intCast (10 ^ n)]
    refine roundEven_mono ((div_le_iff₀ he).mpr ?_)
    rw [← hscale']
    exact hhigh.le
  have hround := abs_roundEven_sub_le (x / 10 ^ e)
  have hone : (0 : Int) < 10 ^ (n - 1) := by positivity
  obtain ⟨c, hc⟩ := Int.eq_ofNat_of_zero_le (hone.le.trans hatLeast)
  rw [hc] at hatLeast hatMost hround
  have hcpos : 0 < c := by
    have hlt := hone.trans_le hatLeast
    omega
  have herror : |c * 10 ^ e - x| ≤ 10 ^ e / 2 := by
    have heq : c * 10 ^ e - x = ((c : Int) - x / 10 ^ e) * 10 ^ e := by
      rw [sub_mul, div_mul_cancel₀ x he.ne']
      rfl
    rw [heq, abs_mul, abs_of_pos he]
    have hmul := mul_le_mul_of_nonneg_right hround he.le
    linarith
  refine ⟨c * 10 ^ e, by positivity, fits_of_le hdigits (by exact_mod_cast hatMost), ?_⟩
  refine nearest_of_close hn hx hpos (by positivity) ?_
  calc 2 * |c * 10 ^ e - x| * ((10 ^ (n - 1) : Nat) : ℚ) ≤ 10 ^ e * ((10 ^ (n - 1) : Nat) : ℚ) := by
        refine mul_le_mul_of_nonneg_right (by linarith) (Nat.cast_nonneg _)
    _ = 10 ^ Int.log 10 x := by
        rw [hscale, mul_comm]
        push_cast
        rfl
    _ ≤ x := hlow

/-- The numbers that are not rounded up to the bound. -/
theorem nearest_lt_limit (hq : 0 < q) (h : q < 2 ^ F.limit - 2 ^ (F.limit - F.precision - 1)) :
    nearest F q < 2 ^ F.limit := by
  have hlt : q < ((2 : Nat) : ℚ) ^ F.limit := h.trans (sub_lt_self _ (zpow_two_pos _))
  have hlog : Int.log 2 q < F.limit := (Int.lt_zpow_iff_log_lt (by decide) hq).mp hlt
  have hunit : unit F q ≤ F.limit - F.precision := by
    have hroomy := F.roomy
    unfold unit
    omega
  have herror := abs_le.mp (abs_nearest_sub_le F q)
  have hhalf : (2 : ℚ) ^ (F.limit - F.precision - 1) = 2 ^ (F.limit - F.precision) / 2 := by
    rw [zpow_sub₀ (by norm_num) _ 1, zpow_one]
  have hmono := zpow_two_le hunit
  linarith

/-! ## Printing -/

/-- The number that digits and an exponent stand for. -/
def decimal (d : Nat × Int) : ℚ := d.1 * 10 ^ d.2

/-- The digits are read back as the float, and no fewer digits are. -/
structure Shortest (F : Format) (x : ℚ) (d : Nat × Int) : Prop where
  /-- They are read back. -/
  reads : nearest F (decimal d) = x
  /-- No decimal with fewer digits is. -/
  fewest : ∀ n v, 0 < v → Fits n v → nearest F v = x → Fits n (decimal d)

theorem Shortest.pos {d : Nat × Int} (h : Shortest F x d) (hpos : 0 < x) : 0 < decimal d := by
  have hcoeff : 0 < d.1 := by
    by_contra hzero
    have hdecimal : decimal d = 0 := by
      unfold decimal
      rw [Nat.eq_zero_of_not_pos hzero, Nat.cast_zero, zero_mul]
    have hread := h.reads
    rw [hdecimal] at hread
    unfold nearest at hread
    rw [zero_div, show roundEven 0 = 0 from roundEven_intCast 0, Int.cast_zero, zero_mul] at hread
    exact absurd hpos (hread ▸ lt_irrefl _)
  exact mul_pos (Nat.cast_pos.mpr hcoeff) (zpow_ten_pos d.2)

theorem Shortest.fits {d : Nat × Int} (h : Shortest F x d) (hn : 2 ^ F.precision < 10 ^ (n - 1))
    (hx : IsFloat F x) (hpos : 0 < x) : Fits n (decimal d) := by
  obtain ⟨v, hv, hfits, hnearest⟩ := exists_fits hn hx hpos
  exact h.fewest n v hv hfits hnearest

/-- The decimals of `n` digits next to a number, the closer one first, and of two that are equally close
    the even one. -/
def candidates (x : ℚ) (n : Nat) : List (Nat × Int) :=
  let exp := Int.log 10 x + 1 - n
  let low := ⌊x / 10 ^ exp⌋₊
  let below := x - decimal (low, exp)
  let above := decimal (low + 1, exp) - x
  if below < above ∨ (below = above ∧ low % 2 = 0) then [(low, exp), (low + 1, exp)]
  else [(low + 1, exp), (low, exp)]

/-- The first decimal with up to `n` digits that is read back. -/
def findPrinted (F : Format) (n : Nat) (x : ℚ) : Option (Nat × Int) :=
  ((List.range n).flatMap fun i => candidates x (i + 1)).find? fun d => decide (nearest F (decimal d) = x)

/-- The printed digits of a float, with their exponent. -/
def print (F : Format) (n : Nat) (x : ℚ) : Nat × Int := (findPrinted F n x).getD (0, 0)

example : print binary64 17 (nearest binary64 (3 / 10)) = (3, -1) := by decide +kernel

section Candidates

variable {d : Nat × Int}

theorem mem_candidates : d ∈ candidates x n ↔ d.2 = Int.log 10 x + 1 - n ∧
    (d.1 = ⌊x / 10 ^ d.2⌋₊ ∨ d.1 = ⌊x / 10 ^ d.2⌋₊ + 1) := by
  obtain ⟨c, e⟩ := d
  unfold candidates
  simp only
  split <;> simp only [List.mem_cons, List.not_mem_nil, or_false, Prod.mk.injEq] <;>
    exact ⟨by rintro (⟨rfl, rfl⟩ | ⟨rfl, rfl⟩) <;> simp, by rintro ⟨rfl, rfl | rfl⟩ <;> simp⟩

/-- Between the powers of ten a number has so many digits before the exponent of its candidates. -/
theorem log_ten_scaled (hx : 0 < x) (hn : 0 < n) {e : Int} (he : e = Int.log 10 x + 1 - n) :
    ((10 ^ (n - 1) : Nat) : ℚ) * 10 ^ e ≤ x ∧ x < ((10 ^ n : Nat) : ℚ) * 10 ^ e := by
  obtain ⟨hlow, hhigh⟩ := log_ten hx
  have hscale : ∀ k : Nat, ((10 ^ k : Nat) : ℚ) * 10 ^ e = 10 ^ (k + e) := by
    intro k
    rw [zpow_add₀ (by norm_num), zpow_natCast]
    push_cast
    rfl
  rw [hscale, hscale, show ((n - 1 : Nat) : Int) + e = Int.log 10 x by omega,
    show (n : Int) + e = Int.log 10 x + 1 by omega]
  exact ⟨hlow, hhigh⟩

theorem fits_of_mem_candidates (hx : 0 < x) (hn : 0 < n) (h : d ∈ candidates x n) :
    Fits n (decimal d) := by
  obtain ⟨hexp, hdigits⟩ := mem_candidates.mp h
  have he := zpow_ten_pos d.2
  have hfloor : ⌊x / 10 ^ d.2⌋₊ < 10 ^ n := by
    rw [Nat.floor_lt (by positivity), div_lt_iff₀ he]
    exact (log_ten_scaled hx hn hexp).2
  exact fits_of_le hn (by omega)

/-- **Where any decimal of `n` digits is read back as a float, a candidate is.** -/
theorem candidate_of_fits (hx : IsFloat F x) (hpos : 0 < x) (hv : 0 < v) (hfits : Fits n v)
    (h : nearest F v = x) : ∃ d ∈ candidates x n, nearest F (decimal d) = x := by
  have hn := pos_of_fits hv hfits
  obtain ⟨c, f, hc, rfl⟩ := hfits
  generalize he : Int.log 10 x + 1 - n = e
  obtain ⟨hlow, hhigh⟩ := log_ten_scaled hpos hn he.symm
  have hten := zpow_ten_pos e
  have hfloor : (⌊x / 10 ^ e⌋₊ : ℚ) * 10 ^ e ≤ x :=
    (le_div_iff₀ hten).mp (Nat.floor_le (by positivity))
  have hceil : x < ((⌊x / 10 ^ e⌋₊ + 1 : Nat) : ℚ) * 10 ^ e := by
    push_cast
    exact (div_lt_iff₀ hten).mp (Nat.lt_floor_add_one _)
  have hleading : 10 ^ (n - 1) ≤ ⌊x / 10 ^ e⌋₊ := Nat.le_floor ((le_div_iff₀ hten).mpr hlow)
  -- a decimal of a smaller exponent is below all candidates
  have hsmall : f < e → (c : ℚ) * 10 ^ f ≤ ((10 ^ (n - 1) : Nat) : ℚ) * 10 ^ e := by
    intro hfe
    have hle : (c : ℚ) ≤ 10 ^ n := by exact_mod_cast hc.le
    calc (c : ℚ) * 10 ^ f ≤ 10 ^ n * 10 ^ f := mul_le_mul_of_nonneg_right hle (zpow_ten_pos f).le
      _ = 10 ^ ((n : Int) + f) := by rw [zpow_add₀ (by norm_num), zpow_natCast]
      _ ≤ 10 ^ (((n - 1 : Nat) : Int) + e) := zpow_le_zpow_right₀ (by norm_num) (by omega)
      _ = ((10 ^ (n - 1) : Nat) : ℚ) * 10 ^ e := by
        rw [zpow_add₀ (by norm_num), zpow_natCast]
        push_cast
        rfl
  have hgrid : e ≤ f → (c : ℚ) * 10 ^ f = ((c * 10 ^ (f - e).toNat : Nat) : ℚ) * 10 ^ e := by
    intro hef
    rw [zpow_split (by norm_num) hef]
    push_cast
    ring
  rcases le_or_gt ((c : ℚ) * 10 ^ f) x with hle | hgt
  · -- the candidate below is between the decimal and the float
    refine ⟨(⌊x / 10 ^ e⌋₊, e), mem_candidates.mpr ⟨he.symm, Or.inl rfl⟩, ?_⟩
    show nearest F ((⌊x / 10 ^ e⌋₊ : ℚ) * 10 ^ e) = x
    have hbetween : (c : ℚ) * 10 ^ f ≤ (⌊x / 10 ^ e⌋₊ : ℚ) * 10 ^ e := by
      rcases lt_or_ge f e with hfe | hef
      · refine (hsmall hfe).trans (mul_le_mul_of_nonneg_right ?_ hten.le)
        exact Nat.cast_le.mpr hleading
      · rw [hgrid hef] at hle ⊢
        refine mul_le_mul_of_nonneg_right (Nat.cast_le.mpr ?_) hten.le
        exact Nat.le_floor ((le_div_iff₀ hten).mpr hle)
    exact hx.nearest_eq_of_le hv hbetween hfloor h
  · refine ⟨(⌊x / 10 ^ e⌋₊ + 1, e), mem_candidates.mpr ⟨he.symm, Or.inr rfl⟩, ?_⟩
    show nearest F (((⌊x / 10 ^ e⌋₊ + 1 : Nat) : ℚ) * 10 ^ e) = x
    have hef : e ≤ f := by
      by_contra hfe
      exact absurd ((hsmall (by omega)).trans hlow) (not_le.mpr hgt)
    have hbetween : ((⌊x / 10 ^ e⌋₊ + 1 : Nat) : ℚ) * 10 ^ e ≤ c * 10 ^ f := by
      rw [hgrid hef] at hgt ⊢
      have hlt : x / 10 ^ e < ((c * 10 ^ (f - e).toNat : Nat) : ℚ) := (div_lt_iff₀ hten).mpr hgt
      have hsucc := Nat.succ_le_of_lt ((Nat.floor_lt (by positivity)).mpr hlt)
      exact mul_le_mul_of_nonneg_right (Nat.cast_le.mpr hsucc) hten.le
    exact hx.nearest_eq_of_ge hpos hceil.le hbetween h

end Candidates

/-- What is found among fewer digits is found. -/
theorem findPrinted_mono {n' : Nat} {d : Nat × Int} (hn : n ≤ n') (h : findPrinted F n x = some d) :
    findPrinted F n' x = some d := by
  refine List.IsPrefix.find?_eq_some ?_ h
  obtain ⟨k, rfl⟩ := Nat.exists_eq_add_of_le hn
  rw [List.range_add, List.flatMap_append]
  exact List.prefix_append _ _

/-- **The printed digits are the shortest**, where `n` digits are enough. -/
theorem shortest_print (hn : 2 ^ F.precision < 10 ^ (n - 1)) (hx : IsFloat F x) (hpos : 0 < x) :
    Shortest F x (print F n x) := by
  have hmem : ∀ {m : Nat} {d}, findPrinted F m x = some d → nearest F (decimal d) = x ∧ Fits m (decimal d) := by
    intro m d hfound
    unfold findPrinted at hfound
    have hread := List.find?_some hfound
    refine ⟨of_decide_eq_true hread, ?_⟩
    obtain ⟨i, hi, hd⟩ := List.mem_flatMap.mp (List.mem_of_find?_eq_some hfound)
    have hlt := List.mem_range.mp hi
    exact fits_mono (by omega) (fits_of_mem_candidates hpos (Nat.succ_pos i) hd)
  have hfound : ∀ {m : Nat} {v}, 0 < v → Fits m v → nearest F v = x → ∃ d, findPrinted F m x = some d := by
    intro m v hv hfits hnearest
    obtain ⟨d, hd, hread⟩ := candidate_of_fits hx hpos hv hfits hnearest
    refine Option.isSome_iff_exists.mp (List.find?_isSome.mpr ⟨d, ?_, decide_eq_true hread⟩)
    have hm := pos_of_fits hv hfits
    refine List.mem_flatMap.mpr ⟨m - 1, List.mem_range.mpr (by omega), ?_⟩
    rwa [Nat.sub_add_cancel hm]
  obtain ⟨v, hv, hfits, hnearest⟩ := exists_fits hn hx hpos
  obtain ⟨d, hd⟩ := hfound hv hfits hnearest
  have hprint : print F n x = d := by
    unfold print
    rw [hd, Option.getD_some]
  rw [hprint]
  refine ⟨(hmem hd).1, fun m w hw hfits' hnearest' => ?_⟩
  rcases le_or_gt m n with hmn | hnm
  · obtain ⟨d', hd'⟩ := hfound hw hfits' hnearest'
    have hsame := (findPrinted_mono hmn hd').symm.trans hd
    rw [← Option.some.inj hsame]
    exact (hmem hd').2
  · exact fits_mono hnm.le (hmem hd).2

end BinaryFloat

end Py
