/-
  The numbers of JSON as decimals.

  Python reads a number that came over the wire with `Decimal(str(value))`.  For an integer that is
  the integer; for a float it is what the digits of its `repr` say, in all of its notations
  (`ofText_text_number`).  So a comparison of such a value with a decimal is a comparison of numbers,
  whatever the scale of either.
-/
import Billing.Lib.Json

namespace Py

/-! ## What a number stands for -/

/-- The decimal that the digits of a float stand for. -/
def PyFloat.toDecimal : PyFloat → Decimal
  | finite neg digits exp => .finite neg digits exp
  | inf neg => .infinity neg
  | nan => .nan false

/-- The decimal that a JSON number stands for (`none`: the value is no number). -/
def Json.number? : Json → Option Decimal
  | int n => some (.finite (decide (n < 0)) n.natAbs 0)
  | float x => some x.toDecimal
  | _ => none

namespace Decimal

/-- The two are the same number, or neither is one. -/
def Alike (d d' : Decimal) : Prop := ∀ e, d.SameNumber e ↔ d'.SameNumber e

theorem Alike.refl (d : Decimal) : d.Alike d := fun _ => Iff.rfl

theorem SameNumber.alike {d d' : Decimal} (h : d.SameNumber d') : d.Alike d' :=
  fun _ => ⟨fun he => h.symm.trans he, fun he => h.trans he⟩

/-- Zeros at the end are made up for by the exponent. -/
theorem value_zeros (neg : Bool) (coeff k : Nat) (exp : Int) :
    value neg (coeff * 10 ^ k) (exp - k) = value neg coeff exp := by
  have hten : (10 : ℚ) ≠ 0 := by norm_num
  have hpow : (10 : ℚ) ^ k * 10 ^ (exp - k) = 10 ^ exp := by
    rw [← zpow_natCast, ← zpow_add₀ hten]
    congr 1
    omega
  unfold value
  rw [← hpow]
  push_cast
  cases neg
  · simp only [Bool.false_eq_true, if_false]
    ring
  · simp only [if_true]
    ring

/-- Digits alone are a number. -/
theorem numberOf_toDigits (n : Nat) : numberOf (Nat.toDigits 10 n) = some (n, 0) := by
  have hdig : ∀ c ∈ Nat.toDigits 10 n, c.isDigit = true := fun c hc => isDigit_of_mem_toDigits hc
  have h := numberOf_whole Nat.toDigits_ne_nil hdig IsExponent.nil
  rw [List.append_nil, natOf_toDigits] at h
  exact h

theorem natOf_append_zeros (ds : List Char) (k : Nat) :
    natOf (ds ++ List.replicate k '0') = natOf ds * 10 ^ k := by
  rw [natOf, Nat.ofDigitChars_append, Nat.ofDigitChars_replicate_zero, natOf, Nat.mul_comm]

end Decimal

/-! ## Reading the text of a float -/

namespace PyFloat

open Decimal

/-- The exponent of a `repr`, which has two digits at least. -/
theorem isExponent_repr (n : Int) :
    IsExponent ('e' :: (if n < 0 then '-' else '+') ::
      (List.replicate (2 - (Nat.toDigits 10 n.natAbs).length) '0' ++ Nat.toDigits 10 n.natAbs)) n := by
  generalize 2 - (Nat.toDigits 10 n.natAbs).length = k
  have hdigits : ∀ c ∈ List.replicate k '0' ++ Nat.toDigits 10 n.natAbs, c.isDigit = true :=
    List.forall_mem_append.mpr ⟨isDigit_zeros k, fun c hc => isDigit_of_mem_toDigits hc⟩
  have hne : List.replicate k '0' ++ Nat.toDigits 10 n.natAbs ≠ [] :=
    fun h => absurd (List.append_eq_nil_iff.mp h).2 Nat.toDigits_ne_nil
  exact isExponent_signed (Or.inr rfl) hne hdigits (by rw [natOf_zeros_append, natOf_toDigits])

/-- The text of a finite float without its sign. -/
def numberText (digits : Nat) (exp : Int) : List Char :=
  (PyFloat.finite false digits exp).reprChars

theorem reprChars_finite (neg : Bool) (digits : Nat) (exp : Int) :
    (finite neg digits exp).reprChars = (if neg then ['-'] else []) ++ numberText digits exp := rfl

/-- **The text of a float is a number**: its digits, with zeros before or after them. -/
theorem numberOf_numberText (neg : Bool) (digits : Nat) (exp : Int) :
    ∃ coeff exp', numberOf (numberText digits exp) = some (coeff, exp') ∧
      value neg coeff exp' = value neg digits exp := by
  have hdig : ∀ c ∈ Nat.toDigits 10 digits, c.isDigit = true := fun c hc => isDigit_of_mem_toDigits hc
  have hlen : 0 < (Nat.toDigits 10 digits).length := Nat.length_toDigits_pos
  have hval : natOf (Nat.toDigits 10 digits) = digits := natOf_toDigits digits
  unfold numberText reprChars
  simp only [Bool.false_eq_true, if_false, List.nil_append]
  generalize Nat.toDigits 10 digits = ds at hdig hlen hval ⊢
  have hds : ds ≠ [] := List.length_pos_iff.mp hlen
  -- where the digits are those of the float, the exponent is its exponent
  have hsame : ∀ {cs : List Char} {exp' : Int}, numberOf cs = some (natOf ds, exp') → exp' = exp →
      ∃ coeff exp', numberOf cs = some (coeff, exp') ∧ value neg coeff exp' = value neg digits exp := by
    rintro cs exp' h rfl
    exact ⟨_, _, h, by rw [hval]⟩
  by_cases hplain : -4 < (ds.length : Int) + exp ∧ (ds.length : Int) + exp ≤ 16
  · rw [if_pos hplain]
    by_cases hsmall : (ds.length : Int) + exp ≤ 0
    · rw [if_pos hsmall]
      exact hsame (numberOf_small _ hds hdig) (by omega)
    · rw [if_neg hsmall]
      by_cases hwhole : (ds.length : Int) ≤ (ds.length : Int) + exp
      · -- zeros after the digits, and one right of the point
        rw [if_pos hwhole]
        generalize hk : ((ds.length : Int) + exp - (ds.length : Int)).toNat = k
        have hall : ∀ c ∈ ds ++ List.replicate (k + 1) '0', c.isDigit = true :=
          List.forall_mem_append.mpr ⟨hdig, isDigit_zeros _⟩
        have hlenAll : (ds ++ List.replicate (k + 1) '0').length = ds.length + (k + 1) := by
          rw [List.length_append, List.length_replicate]
        have h := numberOf_pointed hall (by omega : 0 < ds.length + k) (by omega) IsExponent.nil
        have hsplit : ds ++ List.replicate (k + 1) '0' = (ds ++ List.replicate k '0') ++ ['0'] := by
          rw [List.replicate_succ', List.append_assoc]
        have hlenWhole : ds.length + k = (ds ++ List.replicate k '0').length := by
          rw [List.length_append, List.length_replicate]
        rw [List.append_nil, natOf_append_zeros, hval, hlenAll, hsplit, hlenWhole, List.take_left,
          List.drop_left] at h
        refine ⟨_, _, h, ?_⟩
        rw [← value_zeros neg digits (k + 1) exp, ← hlenWhole]
        congr 1
        omega
      · -- the point stands among the digits
        have h := numberOf_pointed hdig (by omega : 0 < ((ds.length : Int) + exp).toNat) (by omega)
          IsExponent.nil
        rw [List.append_nil] at h
        rw [if_neg hwhole]
        exact hsame h (by omega)
  · -- one digit left of the point, and an exponent
    rw [if_neg hplain, List.append_assoc]
    have htail := isExponent_repr ((ds.length : Int) + exp - 1)
    by_cases hone : ds.length = 1
    · have h := numberOf_whole hds hdig htail
      rw [if_pos hone, List.nil_append, List.take_of_length_le hone.le]
      exact hsame h (by omega)
    · have h := numberOf_pointed hdig Nat.one_pos (by omega) htail
      rw [List.append_assoc] at h
      rw [if_neg hone]
      exact hsame h (by omega)

/-- No character of a float's text is touched when it is cleaned for reading. -/
theorem plain_numberText (digits : Nat) (exp : Int) : ∀ c ∈ numberText digits exp, Plain c := by
  have hdig : ∀ n, ∀ c ∈ Nat.toDigits 10 n, Plain c :=
    fun n c hc => .of_isDigit (isDigit_of_mem_toDigits hc)
  have hzeros : ∀ (k : Nat), ∀ c ∈ List.replicate k '0', Plain c := by
    intro k c hc
    rw [List.eq_of_mem_replicate hc]; decide
  have hmarks : Plain '0' ∧ Plain '.' ∧ Plain 'e' ∧ Plain '-' ∧ Plain '+' := by decide
  intro c hc
  unfold numberText reprChars at hc
  simp only [Bool.false_eq_true, if_false, List.nil_append] at hc
  -- the text is made of digits, zeros, the point and the marks of an exponent
  split_ifs at hc <;>
    simp only [List.mem_append, List.mem_cons, List.not_mem_nil, or_false] at hc <;>
    grind [List.mem_of_mem_take, List.mem_of_mem_drop]

/-- **The text of a float is read as the number of its digits.** -/
theorem ofChars_reprChars (x : PyFloat) :
    ∃ d, Decimal.ofChars x.reprChars = some d ∧ d.Alike x.toDecimal ∧ d ≠ .nan true := by
  cases x with
  | finite neg digits exp =>
    obtain ⟨coeff, exp', hnumber, hvalue⟩ := numberOf_numberText neg digits exp
    refine ⟨.finite neg coeff exp', ?_, SameNumber.alike hvalue, fun h => by cases h⟩
    rw [reprChars_finite]
    exact ofChars_signed (plain_numberText digits exp) hnumber
  | inf neg =>
    refine ⟨.infinity neg, ?_, .refl _, fun h => by cases h⟩
    cases neg <;> decide
  | nan => exact ⟨.nan false, by decide, .refl _, fun h => by cases h⟩

end PyFloat

/-! ## Reading the text of a number -/

open Decimal in
/-- **`Decimal(str(value))` of a number is the number.** -/
theorem Json.ofText_text_number [Python] {j : Json} {d : Decimal} (h : j.number? = some d) :
    ∃ d', Decimal.ofText j.text = some d' ∧ d'.Alike d ∧ d' ≠ .nan true := by
  cases j with
  | int n =>
    obtain rfl := Option.some.inj h
    refine ⟨_, ?_, .refl _, fun h => by cases h⟩
    have hplain : ∀ c ∈ Nat.toDigits 10 n.natAbs, Plain c :=
      fun c hc => .of_isDigit (isDigit_of_mem_toDigits hc)
    have hnumber := numberOf_toDigits n.natAbs
    have hread : Decimal.ofChars ((if decide (n < 0) then ['-'] else []) ++ Nat.toDigits 10 n.natAbs) =
        some (.finite (decide (n < 0)) n.natAbs 0) := ofChars_signed hplain hnumber
    show Decimal.ofChars (String.ofList (intChars n)).toList = _
    rw [String.toList_ofList, intChars]
    simpa only [decide_eq_true_eq] using hread
  | float x =>
    obtain rfl := Option.some.inj h
    obtain ⟨d', hread, halike, hne⟩ := x.ofChars_reprChars
    refine ⟨d', ?_, halike, hne⟩
    show Decimal.ofChars (String.ofList x.reprChars).toList = _
    rw [String.toList_ofList, hread]
  | null => cases h
  | bool b => cases h
  | str s => cases h
  | list xs => cases h
  | dict kvs => cases h

end Py
