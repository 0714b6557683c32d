/-
  Integers as Python reads and writes them: `int(text)` and `str(int)`.

  A text is read with white space around it, with a sign, with single underscores between its digits
  and with digits of any script; it may have 4300 digits at most, which is also the most that `str`
  writes.

  **Round trip** (`intOf_intText`): what is written for an integer that was read is read as it.
-/
import Billing.Lib.JsonNumber

namespace Py

/-- `sys.get_int_max_str_digits()`. -/
def maxStrDigits : Nat := 4300

/-- `int(text)` (`none`: it raises `ValueError`). -/
def intOf (text : String) : Option Int :=
  let (neg, cs) := Decimal.signOf ((stripChars text.toList).map asciiDigit)
  let groups := cs.splitOn '_'
  let digits := groups.flatten
  if (∀ group ∈ groups, group ≠ [] ∧ group.all Char.isDigit) ∧ digits.length ≤ maxStrDigits then
    some (if neg then -(Decimal.natOf digits : Int) else Decimal.natOf digits)
  else none

/-- `str(int)`. -/
def intText (n : Int) : String := String.ofList (intChars n)

example : intOf " +1_0\u0663 " = some 103 := by decide
example : intOf "1__0" = none := by decide
example : intText (-7) = "-7" := by decide

/-! ## How many digits -/

theorem natOf_lt {ds : List Char} (h : ∀ c ∈ ds, c.isDigit = true) :
    Decimal.natOf ds < 10 ^ ds.length := by
  induction ds with
  | nil => exact Nat.one_pos
  | cons d ds ih =>
    have hrest := ih fun c hc => h c (List.mem_cons_of_mem _ hc)
    have hdigit := toNat_of_isDigit (h d List.mem_cons_self)
    have hzero : '0'.toNat = 48 := rfl
    have hvalue : Decimal.natOf (d :: ds) = 10 ^ ds.length * (d.toNat - 48) + Decimal.natOf ds := by
      rw [Decimal.natOf, Nat.ofDigitChars_cons, Nat.ofDigitChars_eq_ofDigitChars_zero, hzero,
        Nat.mul_zero, Nat.zero_add]
      rfl
    have hle : 10 ^ ds.length * (d.toNat - 48) ≤ 10 ^ ds.length * 9 :=
      Nat.mul_le_mul_left _ (by omega)
    rw [hvalue, List.length_cons, Nat.pow_succ]
    omega

/-- An integer that was read has no more digits than its text. -/
theorem length_of_intOf {text : String} {n : Int} (h : intOf text = some n) :
    (Nat.toDigits 10 n.natAbs).length ≤ maxStrDigits := by
  unfold intOf at h
  simp only at h
  split at h
  · rename_i hread
    have hdigits : ∀ c ∈ (List.splitOn '_' (Decimal.signOf
        ((stripChars text.toList).map asciiDigit)).2).flatten, c.isDigit = true := by
      intro c hc
      obtain ⟨group, hgroup, hc⟩ := List.mem_flatten.mp hc
      exact List.all_eq_true.mp (hread.1 group hgroup).2 c hc
    have hlt := natOf_lt hdigits
    have habs : n.natAbs = Decimal.natOf (List.splitOn '_' (Decimal.signOf
        ((stripChars text.toList).map asciiDigit)).2).flatten := by
      rw [← Option.some.inj h]
      split
      · rw [Int.natAbs_neg, Int.natAbs_natCast]
      · rw [Int.natAbs_natCast]
    rw [Nat.length_toDigits_le_iff (by decide) (by decide), habs]
    exact Nat.lt_of_lt_of_le hlt (Nat.pow_le_pow_right (by decide) hread.2)
  · cases h

theorem toList_intText_of_pos {n : Int} (h : 0 < n) :
    (intText n).toList = Nat.toDigits 10 n.natAbs := by
  rw [intText, String.toList_ofList, intChars, if_neg (by omega), List.nil_append]

/-- The text of a positive integer is digits. -/
theorem isDigit_of_mem_intText {n : Int} (h : 0 < n) {c : Char} (hc : c ∈ (intText n).toList) :
    c.isDigit = true := by
  rw [toList_intText_of_pos h] at hc
  exact Decimal.isDigit_of_mem_toDigits hc

/-- **Round trip**, of positive integers. -/
theorem intOf_intText {n : Int} (hpos : 0 < n)
    (hlen : (Nat.toDigits 10 n.natAbs).length ≤ maxStrDigits) : intOf (intText n) = some n := by
  have hdig : ∀ c ∈ Nat.toDigits 10 n.natAbs, c.isDigit = true :=
    fun c hc => Decimal.isDigit_of_mem_toDigits hc
  have hplain : ∀ c ∈ Nat.toDigits 10 n.natAbs, Decimal.Plain c := fun c hc => .of_isDigit (hdig c hc)
  have hstrip : stripChars (Nat.toDigits 10 n.natAbs) = Nat.toDigits 10 n.natAbs :=
    stripChars_eq_self fun c hc => (hplain c hc).1
  have hascii : (Nat.toDigits 10 n.natAbs).map asciiDigit = Nat.toDigits 10 n.natAbs :=
    (List.map_congr_left fun c hc => asciiDigit_of_ascii (hplain c hc).2.2).trans (List.map_id _)
  have hsign : Decimal.signOf (Nat.toDigits 10 n.natAbs) = (false, Nat.toDigits 10 n.natAbs) :=
    Decimal.signOf_of_numberOf (Decimal.numberOf_toDigits n.natAbs)
  have hgroups : (Nat.toDigits 10 n.natAbs).splitOn '_' = [Nat.toDigits 10 n.natAbs] :=
    List.splitOn_eq_singleton Nat.underscore_not_in_toDigits
  have hread : (∀ group ∈ [Nat.toDigits 10 n.natAbs], group ≠ [] ∧ group.all Char.isDigit = true) ∧
      [Nat.toDigits 10 n.natAbs].flatten.length ≤ maxStrDigits := by
    refine ⟨fun group hgroup => ?_, ?_⟩
    · rw [List.mem_singleton.mp hgroup]
      exact ⟨Nat.toDigits_ne_nil, List.all_eq_true.mpr hdig⟩
    · rwa [List.flatten_singleton]
  unfold intOf
  rw [toList_intText_of_pos hpos, hstrip, hascii, hsign]
  simp only
  rw [hgroups, if_pos hread, if_neg Bool.false_ne_true, List.flatten_singleton,
    Decimal.natOf_toDigits]
  exact congrArg some (by omega)

end Py
