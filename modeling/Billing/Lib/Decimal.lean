/-
  Python's `decimal.Decimal`: the numbers, their text, and the text read back.

  A finite decimal is a sign, a coefficient and a power of ten, so `120.0` and `120.00` are two
  decimals of one value.  `toChars` is `str(Decimal)` (plain notation while the exponent is small,
  scientific notation otherwise) and `ofChars` is the constructor `Decimal(str)`.

  **Round trip** (`ofChars_toChars`): reading a printed decimal gives the same sign, coefficient and
  exponent back, trailing zeros and exponent forms included.  Both notations print an integer part,
  possibly a point and a fraction, possibly an exponent; `numberOf_parts` reads any such text, and
  the three shapes that `toChars` can take are instances of it.
-/
import Billing.Lib.PyText
import Mathlib.Algebra.Order.Field.Rat
import Mathlib.Tactic.Linarith
import Mathlib.Tactic.FieldSimp
import Mathlib.Tactic.Ring

namespace Py

/-- A decimal number: `(-1)^neg * coeff * 10^exp`, an infinity, or not a number. -/
inductive Decimal where
  /-- A finite number. -/
  | finite (neg : Bool) (coeff : Nat) (exp : Int)
  /-- `Infinity` or `-Infinity`. -/
  | infinity (neg : Bool)
  /-- `NaN`, or `sNaN` which every comparison refuses. -/
  | nan (signaling : Bool)
  deriving DecidableEq, Repr

namespace Decimal

/-! ## Printing -/

/-- The format `%+d`. -/
def signedChars (n : Int) : List Char :=
  (if n < 0 then '-' else '+') :: Nat.toDigits 10 n.natAbs

/-- The text of a finite decimal without its sign. -/
def numberChars (coeff : Nat) (exp : Int) : List Char :=
  let ds := Nat.toDigits 10 coeff
  -- how many digits of the coefficient stand left of the decimal point
  let leftdigits : Int := exp + ds.length
  let dotplace : Int := if exp ≤ 0 ∧ -6 < leftdigits then leftdigits else 1
  let mantissa :=
    if dotplace ≤ 0 then '0' :: '.' :: (List.replicate (-dotplace).toNat '0' ++ ds)
    else if (ds.length : Int) ≤ dotplace then
      ds ++ List.replicate (dotplace - ds.length).toNat '0'
    else ds.take dotplace.toNat ++ '.' :: ds.drop dotplace.toNat
  if leftdigits = dotplace then mantissa else mantissa ++ 'E' :: signedChars (leftdigits - dotplace)

/-- `str(Decimal)`, as a list of characters. -/
def toChars : Decimal → List Char
  | finite neg coeff exp => (if neg then ['-'] else []) ++ numberChars coeff exp
  | infinity neg => (if neg then ['-'] else []) ++ "Infinity".toList
  | nan signaling => if signaling then "sNaN".toList else "NaN".toList

/-- `str(Decimal)`. -/
def toText (d : Decimal) : String := String.ofList d.toChars

/-! ## Reading -/

/-- An optional sign: is it a minus, and what follows. -/
def signOf : List Char → Bool × List Char
  | '-' :: cs => (true, cs)
  | '+' :: cs => (false, cs)
  | cs => (false, cs)

/-- The leading digits, and what follows. -/
def digitsOf (cs : List Char) : List Char × List Char :=
  (cs.takeWhile Char.isDigit, cs.dropWhile Char.isDigit)

/-- An optional point with the digits after it, and what follows. -/
def fractionOf : List Char → List Char × List Char
  | '.' :: cs => digitsOf cs
  | cs => ([], cs)

/-- The value of a list of digits. -/
def natOf (ds : List Char) : Nat := Nat.ofDigitChars 10 ds 0

/-- An optional exponent, which must end the text. -/
def exponentOf : List Char → Option Int
  | [] => some 0
  | c :: cs =>
    if c = 'E' ∨ c = 'e' then
      let (neg, ds) := signOf cs
      if ds ≠ [] ∧ ds.all Char.isDigit then some (if neg then -(natOf ds : Int) else natOf ds)
      else none
    else none

/-- An unsigned number: the coefficient and the exponent. -/
def numberOf (cs : List Char) : Option (Nat × Int) :=
  let (ip, cs) := digitsOf cs
  let (fp, cs) := fractionOf cs
  if ip = [] ∧ fp = [] then none
  else
    match exponentOf cs with
    | none => none
    | some e => some (natOf (ip ++ fp), e - fp.length)

/-- The words for what is not a finite number, in any case of letters. -/
def specialOf (neg : Bool) (cs : List Char) : Option Decimal :=
  let cs := cs.map Char.toLower
  if cs = "inf".toList ∨ cs = "infinity".toList then some (infinity neg)
  else if "nan".toList.isPrefixOf cs ∧ (cs.drop 3).all Char.isDigit then some (nan false)
  else if "snan".toList.isPrefixOf cs ∧ (cs.drop 4).all Char.isDigit then some (nan true)
  else none

/-- What the constructor reads: no white space around it, no underscores, digits of any script. -/
def cleaned (cs : List Char) : List Char :=
  ((stripChars cs).filter fun c => decide (c ≠ '_')).map asciiDigit

/-- `Decimal(str)`, on a list of characters (`none`: it raises `InvalidOperation`). -/
def ofChars (cs : List Char) : Option Decimal :=
  let (neg, cs) := signOf (cleaned cs)
  match numberOf cs with
  | some (coeff, exp) => some (finite neg coeff exp)
  | none => specialOf neg cs

/-- `Decimal(str)`. -/
def ofText (s : String) : Option Decimal := ofChars s.toList

example : ofText "120.00" = some (finite false 12000 (-2)) := by decide
example : toText (finite false 12 (-10)) = "1.2E-9" := by decide
example : ofText " -1_0.5e+3 " = some (finite true 105 2) := by decide

/-! ## How long a printed decimal is -/

/-- The number of decimal digits. -/
def digitCount (n : Nat) : Nat := (Nat.toDigits 10 n).length

/-- The number of characters of a finite decimal without its sign: its digits, the zeros and the point
    that plain notation needs, or the point and the exponent of scientific notation. -/
def numberWidth (coeff : Nat) (exp : Int) : Nat :=
  let digits := digitCount coeff
  if exp ≤ 0 ∧ -6 < exp + digits then
    if exp = 0 then digits
    else if exp + digits ≤ 0 then 2 + exp.natAbs
    else digits + 1
  else digits + (if digits = 1 then 0 else 1) + 2 + digitCount (exp + digits - 1).natAbs

/-- The number of characters of `str(Decimal)`. -/
def width : Decimal → Nat
  | finite neg coeff exp => (if neg then 1 else 0) + numberWidth coeff exp
  | infinity neg => (if neg then 1 else 0) + 8
  | nan signaling => if signaling then 4 else 3

theorem length_numberChars (coeff : Nat) (exp : Int) :
    (numberChars coeff exp).length = numberWidth coeff exp := by
  have hpos : 0 < (Nat.toDigits 10 coeff).length := Nat.length_toDigits_pos
  unfold numberChars numberWidth digitCount
  simp only
  generalize Nat.toDigits 10 coeff = ds at hpos
  by_cases hplain : exp ≤ 0 ∧ -6 < exp + (ds.length : Int)
  · rw [if_pos hplain, if_pos hplain, if_pos rfl]
    by_cases hsmall : exp + (ds.length : Int) ≤ 0
    · have hexp : exp ≠ 0 := by omega
      rw [if_pos hsmall, if_neg hexp, if_pos hsmall]
      simp only [List.length_cons, List.length_append, List.length_replicate]
      omega
    · rw [if_neg hsmall]
      by_cases hexp : exp = 0
      · rw [if_pos hexp, if_pos (by omega)]
        simp only [List.length_append, List.length_replicate]
        omega
      · rw [if_neg hexp, if_neg hsmall, if_neg (by omega)]
        simp only [List.length_append, List.length_cons, List.length_take, List.length_drop]
        omega
  · have hone : exp + (ds.length : Int) ≠ 1 := fun h => hplain ⟨by omega, by omega⟩
    rw [if_neg hplain, if_neg hplain, if_neg (by omega : ¬ (1 : Int) ≤ 0), if_neg hone]
    unfold signedChars
    by_cases hlen : ds.length = 1
    · rw [if_pos (by omega : (ds.length : Int) ≤ 1), if_pos hlen]
      simp only [List.length_append, List.length_cons, List.length_replicate]
      omega
    · rw [if_neg (by omega : ¬ (ds.length : Int) ≤ 1), if_neg hlen]
      simp only [List.length_append, List.length_cons, List.length_take, List.length_drop]
      omega

/-- **The length of a printed decimal**, by its digits and its exponent. -/
theorem length_toText (d : Decimal) : d.toText.length = d.width := by
  rw [toText, String.length_ofList]
  cases d with
  | finite neg coeff exp =>
    rw [toChars, List.length_append, length_numberChars, width]
    cases neg <;> rfl
  | infinity neg => cases neg <;> rfl
  | nan signaling => cases signaling <;> rfl

example : width (finite false 12 (-10)) = 6 := by decide

/-! ## Reading what was printed -/

/-- Digits end where something else begins. -/
theorem digitsOf_append {ds rest : List Char} (hd : ∀ c ∈ ds, c.isDigit = true)
    (hr : ∀ c cs, rest = c :: cs → c.isDigit = false) : digitsOf (ds ++ rest) = (ds, rest) := by
  have htake : rest.takeWhile Char.isDigit = [] := by
    cases rest with
    | nil => rfl
    | cons c cs => rw [List.takeWhile_cons_of_neg (by rw [hr c cs rfl]; exact Bool.false_ne_true)]
  have hdrop : rest.dropWhile Char.isDigit = rest := by
    cases rest with
    | nil => rfl
    | cons c cs => rw [List.dropWhile_cons_of_neg (by rw [hr c cs rfl]; exact Bool.false_ne_true)]
  rw [digitsOf, List.takeWhile_append_of_pos hd, List.dropWhile_append_of_pos hd, htake, hdrop,
    List.append_nil]

theorem isDigit_of_mem_toDigits {n : Nat} {c : Char} (h : c ∈ Nat.toDigits 10 n) :
    c.isDigit = true := Nat.isDigit_of_mem_toDigits (by decide) (by decide) h

/-- A signed exponent is read, with zeros before it or not. -/
theorem exponentOf_signed {mark : Char} {ds : List Char} {n : Int} (hmark : mark = 'E' ∨ mark = 'e')
    (hne : ds ≠ []) (hds : ∀ c ∈ ds, c.isDigit = true) (hval : natOf ds = n.natAbs) :
    exponentOf (mark :: (if n < 0 then '-' else '+') :: ds) = some n := by
  have hcond : ds ≠ [] ∧ ds.all Char.isDigit = true := ⟨hne, List.all_eq_true.mpr hds⟩
  rw [exponentOf, if_pos hmark]
  by_cases hn : n < 0
  · rw [if_pos hn]
    simp only [signOf]
    rw [if_pos hcond, hval, if_pos trivial]
    exact congrArg some (by omega)
  · rw [if_neg hn]
    simp only [signOf]
    rw [if_pos hcond, hval, if_neg Bool.false_ne_true]
    exact congrArg some (by omega)

/-- The text is nothing or an exponent: it reads as `e`, and no digit or point begins it. -/
structure IsExponent (tail : List Char) (e : Int) : Prop where
  read : exponentOf tail = some e
  head : ∀ c cs, tail = c :: cs → c.isDigit = false ∧ c ≠ '.'

theorem IsExponent.nil : IsExponent [] 0 := ⟨rfl, fun c cs h => by cases h⟩

/-- A sign and digits after the mark make an exponent. -/
theorem isExponent_signed {mark : Char} {ds : List Char} {n : Int} (hmark : mark = 'E' ∨ mark = 'e')
    (hne : ds ≠ []) (hds : ∀ c ∈ ds, c.isDigit = true) (hval : natOf ds = n.natAbs) :
    IsExponent (mark :: (if n < 0 then '-' else '+') :: ds) n where
  read := exponentOf_signed hmark hne hds hval
  head _ cs h := by
    rw [← (List.cons.inj h).1]
    rcases hmark with rfl | rfl
    · decide
    · decide

theorem isExponent_signedChars (n : Int) : IsExponent ('E' :: signedChars n) n :=
  isExponent_signed (Or.inl rfl) Nat.toDigits_ne_nil (fun _ hc => isDigit_of_mem_toDigits hc)
    Nat.ofDigitChars_ten_toDigits

/-- The fraction part of a printed number: a point and digits, or nothing. -/
def fractionChars (fp : List Char) : List Char := if fp = [] then [] else '.' :: fp

/-- **Any number is read from its parts**: digits, a fraction, and whatever reads as an exponent. -/
theorem numberOf_parts {ip fp tail : List Char} {e : Int} (hne : ip ≠ [])
    (hip : ∀ c ∈ ip, c.isDigit = true) (hfp : ∀ c ∈ fp, c.isDigit = true) (htail : IsExponent tail e) :
    numberOf (ip ++ (fractionChars fp ++ tail)) = some (natOf (ip ++ fp), e - fp.length) := by
  have hint : digitsOf (ip ++ (fractionChars fp ++ tail)) = (ip, fractionChars fp ++ tail) := by
    refine digitsOf_append hip fun c cs h => ?_
    by_cases hf : fp = []
    · rw [fractionChars, if_pos hf, List.nil_append] at h
      exact (htail.head c cs h).1
    · rw [fractionChars, if_neg hf, List.cons_append] at h
      rw [← (List.cons.inj h).1]; rfl
  have hfrac : fractionOf (fractionChars fp ++ tail) = (fp, tail) := by
    by_cases hf : fp = []
    · rw [fractionChars, if_pos hf, List.nil_append, hf]
      unfold fractionOf
      split
      · rename_i cs; exact absurd rfl (htail.head '.' cs rfl).2
      · rfl
    · rw [fractionChars, if_neg hf, List.cons_append]
      exact digitsOf_append hfp fun c cs h => (htail.head c cs h).1
  have hnot : ¬ (ip = [] ∧ fp = []) := fun h => hne h.1
  simp only [numberOf, hint, hfrac, if_neg hnot, htail.read]

section Layouts

variable {ds tail : List Char} {e : Int}

/-- Digits without a point. -/
theorem numberOf_whole (hne : ds ≠ []) (hds : ∀ c ∈ ds, c.isDigit = true) (htail : IsExponent tail e) :
    numberOf (ds ++ tail) = some (natOf ds, e) := by
  have hnone : ∀ c ∈ ([] : List Char), c.isDigit = true := fun c hc => absurd hc List.not_mem_nil
  have h := numberOf_parts hne hds hnone htail
  rw [fractionChars, if_pos rfl, List.nil_append, List.append_nil, List.length_nil] at h
  rw [h, Int.natCast_zero, Int.sub_zero]

/-- Digits with a point after the first `k`. -/
theorem numberOf_pointed {k : Nat} (hds : ∀ c ∈ ds, c.isDigit = true) (hk : 0 < k) (hlt : k < ds.length)
    (htail : IsExponent tail e) :
    numberOf (ds.take k ++ '.' :: ds.drop k ++ tail) = some (natOf ds, e - (ds.length - k)) := by
  have hip : ds.take k ≠ [] := by
    intro h
    have hlen := congrArg List.length h
    rw [List.length_take, List.length_nil] at hlen
    omega
  have hfp : ds.drop k ≠ [] := by
    intro h
    have hlen := List.drop_eq_nil_iff.mp h
    omega
  have hfdig : ∀ c ∈ ds.drop k, c.isDigit = true := fun c hc => hds c (List.mem_of_mem_drop hc)
  have h := numberOf_parts hip (fun c hc => hds c (List.mem_of_mem_take hc)) hfdig htail
  rw [fractionChars, if_neg hfp, List.take_append_drop, List.length_drop, ← List.append_assoc,
    Int.natCast_sub hlt.le] at h
  exact h

theorem isDigit_zeros (k : Nat) : ∀ c ∈ List.replicate k '0', c.isDigit = true := by
  intro c hc
  rw [List.eq_of_mem_replicate hc]; rfl

theorem natOf_toDigits (n : Nat) : natOf (Nat.toDigits 10 n) = n := Nat.ofDigitChars_ten_toDigits

theorem natOf_zeros_append (k : Nat) (ds : List Char) :
    natOf (List.replicate k '0' ++ ds) = natOf ds := by
  rw [natOf, Nat.ofDigitChars_append, Nat.ofDigitChars_replicate_zero, Nat.mul_zero, natOf]

/-- A zero left of the point, and `k` zeros between it and the digits. -/
theorem numberOf_small (k : Nat) (hne : ds ≠ []) (hds : ∀ c ∈ ds, c.isDigit = true) :
    numberOf ('0' :: '.' :: (List.replicate k '0' ++ ds)) = some (natOf ds, -((k : Int) + ds.length)) := by
  have hpos : 0 < ds.length := List.length_pos_iff.mpr hne
  have hall : ∀ c ∈ List.replicate (k + 1) '0' ++ ds, c.isDigit = true :=
    List.forall_mem_append.mpr ⟨isDigit_zeros _, hds⟩
  have hlen : (List.replicate (k + 1) '0' ++ ds).length = k + 1 + ds.length := by
    rw [List.length_append, List.length_replicate]
  have h := numberOf_pointed hall Nat.one_pos (by omega) IsExponent.nil
  rw [List.append_nil, natOf_zeros_append, hlen] at h
  refine h.trans (congrArg (fun exp => some (natOf ds, exp)) ?_)
  omega

end Layouts

/-- Printing a finite number and reading it back. -/
theorem numberOf_numberChars (coeff : Nat) (exp : Int) :
    numberOf (numberChars coeff exp) = some (coeff, exp) := by
  have hdig : ∀ c ∈ Nat.toDigits 10 coeff, c.isDigit = true := fun c hc => isDigit_of_mem_toDigits hc
  have hlen : 0 < (Nat.toDigits 10 coeff).length := Nat.length_toDigits_pos
  simp only [numberChars]
  generalize hds : Nat.toDigits 10 coeff = ds at hdig hlen
  have hval : natOf ds = coeff := by rw [← hds, natOf_toDigits]
  have hne : ds ≠ [] := List.length_pos_iff.mp hlen
  have hread : ∀ {exp' : Int}, exp' = exp → some (natOf ds, exp') = some (coeff, exp) := by
    rintro exp' rfl
    rw [hval]
  by_cases hplain : exp ≤ 0 ∧ -6 < exp + (ds.length : Int)
  · -- plain notation: the point stands where the exponent says, and no exponent is printed
    rw [if_pos hplain, if_pos rfl]
    by_cases hsmall : exp + (ds.length : Int) ≤ 0
    · rw [if_pos hsmall, numberOf_small _ hne hdig]
      exact hread (by omega)
    · rw [if_neg hsmall]
      by_cases hwhole : (ds.length : Int) ≤ exp + (ds.length : Int)
      · -- the exponent is zero, so the digits stand alone
        have hz : (exp + (ds.length : Int) - (ds.length : Int)).toNat = 0 := by omega
        rw [if_pos hwhole, hz, List.replicate_zero, numberOf_whole hne hdig .nil]
        exact hread (by omega)
      · have h := numberOf_pointed hdig (by omega : 0 < (exp + (ds.length : Int)).toNat) (by omega)
          IsExponent.nil
        rw [List.append_nil] at h
        rw [if_neg hwhole, h]
        exact hread (by omega)
  · -- scientific notation: one digit left of the point, and an exponent
    have hexp : exp + (ds.length : Int) ≠ 1 := by
      intro h
      exact hplain ⟨by omega, by omega⟩
    rw [if_neg hplain, if_neg (by omega : ¬ (1 : Int) ≤ 0), if_neg hexp]
    by_cases hone : (ds.length : Int) ≤ 1
    · have hz : ((1 : Int) - (ds.length : Int)).toNat = 0 := by omega
      rw [if_pos hone, hz, List.replicate_zero, List.append_nil,
        numberOf_whole hne hdig (isExponent_signedChars _)]
      exact hread (by omega)
    · have h := numberOf_pointed hdig Nat.one_pos (by omega)
        (isExponent_signedChars (exp + (ds.length : Int) - 1))
      rw [if_neg hone]
      refine h.trans (hread ?_)
      omega

/-- No character of a printed decimal is touched when a text is cleaned for reading. -/
def Plain (c : Char) : Prop := isSpace c = false ∧ c ≠ '_' ∧ c.toNat < 128

instance (c : Char) : Decidable (Plain c) := inferInstanceAs (Decidable (_ ∧ _ ∧ _))

theorem Plain.of_isDigit {c : Char} (h : c.isDigit = true) : Plain c := by
  obtain ⟨hlo, hhi⟩ := toNat_of_isDigit h
  refine ⟨?_, ?_, by omega⟩
  · simp only [isSpace, Bool.or_eq_false_iff, Bool.and_eq_false_iff, decide_eq_false_iff_not,
      beq_eq_false_iff_ne]
    omega
  · rintro rfl
    exact absurd hhi (by decide)

theorem cleaned_eq_self {cs : List Char} (h : ∀ c ∈ cs, Plain c) : cleaned cs = cs := by
  have hfilter : (cs.filter fun c => decide (c ≠ '_')) = cs :=
    List.filter_eq_self.mpr fun c hc => decide_eq_true (h c hc).2.1
  rw [cleaned, stripChars_eq_self fun c hc => (h c hc).1, hfilter]
  exact (List.map_congr_left fun c hc => asciiDigit_of_ascii (h c hc).2.2).trans cs.map_id

theorem plain_signedChars (n : Int) : ∀ c ∈ signedChars n, Plain c := by
  intro c hc
  rcases List.mem_cons.mp hc with rfl | hc
  · by_cases hn : n < 0
    · rw [if_pos hn]; decide
    · rw [if_neg hn]; decide
  · exact .of_isDigit (isDigit_of_mem_toDigits hc)

theorem plain_numberChars (coeff : Nat) (exp : Int) : ∀ c ∈ numberChars coeff exp, Plain c := by
  have hdig : ∀ c ∈ Nat.toDigits 10 coeff, Plain c :=
    fun c hc => .of_isDigit (isDigit_of_mem_toDigits hc)
  have hzeros : ∀ (k : Nat), ∀ c ∈ List.replicate k '0', Plain c := by
    intro k c hc
    rw [List.eq_of_mem_replicate hc]; decide
  have hzero : Plain '0' := by decide
  have hdot : Plain '.' := by decide
  have hexp : Plain 'E' := by decide
  intro c hc
  simp only [numberChars] at hc
  -- a printed number is made of digits, zeros, the point and a signed exponent
  split_ifs at hc <;>
    simp only [List.mem_append, List.mem_cons] at hc <;>
    grind [plain_signedChars, List.mem_of_mem_take, List.mem_of_mem_drop]

/-- What reads as a number has no sign in front. -/
theorem signOf_of_numberOf {cs : List Char} {number : Nat × Int} (h : numberOf cs = some number) :
    signOf cs = (false, cs) := by
  cases cs with
  | nil => rfl
  | cons c cs =>
    have hminus : c ≠ '-' := by
      rintro rfl
      simp [numberOf, digitsOf, fractionOf] at h
    have hplus : c ≠ '+' := by
      rintro rfl
      simp [numberOf, digitsOf, fractionOf] at h
    unfold signOf
    split
    · rename_i heq; exact absurd (List.cons.inj heq).1 hminus
    · rename_i heq; exact absurd (List.cons.inj heq).1 hplus
    · rfl

/-- A sign and a number are read as a decimal. -/
theorem ofChars_signed {neg : Bool} {cs : List Char} {coeff : Nat} {exp : Int}
    (hplain : ∀ c ∈ cs, Plain c) (h : numberOf cs = some (coeff, exp)) :
    ofChars ((if neg then ['-'] else []) ++ cs) = some (finite neg coeff exp) := by
  have hsign : ∀ c ∈ (if neg then ['-'] else []), Plain c := by
    cases neg with
    | false => exact fun c hc => absurd hc List.not_mem_nil
    | true =>
      intro c hc
      rw [List.mem_singleton.mp hc]
      decide
  have hall : ∀ c ∈ (if neg then ['-'] else []) ++ cs, Plain c := by
    intro c hc
    rcases List.mem_append.mp hc with hc | hc
    · exact hsign c hc
    · exact hplain c hc
  have hsigned : signOf ((if neg then ['-'] else []) ++ cs) = (neg, cs) := by
    cases neg with
    | false => exact signOf_of_numberOf h
    | true => rfl
  rw [ofChars, cleaned_eq_self hall, hsigned]
  simp only [h]

/-- **Round trip**: `Decimal(str(d))` is `d`, with the sign, the coefficient and the exponent. -/
theorem ofChars_toChars (d : Decimal) : ofChars d.toChars = some d := by
  cases d with
  | finite neg coeff exp =>
    exact ofChars_signed (plain_numberChars coeff exp) (numberOf_numberChars coeff exp)
  | infinity neg => cases neg <;> decide
  | nan signaling => cases signaling <;> decide

theorem ofText_toText (d : Decimal) : ofText d.toText = some d := by
  rw [ofText, toText, String.toList_ofList, ofChars_toChars]

/-! ## Comparing -/

/-- `coeff` and `exp` as an integer number of units `10^unit`, for a `unit` not above `exp`. -/
def scaled (neg : Bool) (coeff : Nat) (exp unit : Int) : Int :=
  (if neg then -(coeff : Int) else coeff) * 10 ^ (exp - unit).toNat

/-- `==` (`none`: it raises `InvalidOperation`, as a signaling NaN does). -/
def eq : Decimal → Decimal → Option Bool
  | nan true, _ | _, nan true => none
  | finite n₁ c₁ e₁, finite n₂ c₂ e₂ =>
    some (decide (scaled n₁ c₁ e₁ (min e₁ e₂) = scaled n₂ c₂ e₂ (min e₁ e₂)))
  | infinity n₁, infinity n₂ => some (n₁ == n₂)
  | _, _ => some false

/-- `<=` (`none`: it raises `InvalidOperation`, as every NaN does). -/
def le : Decimal → Decimal → Option Bool
  | nan _, _ | _, nan _ => none
  | finite n₁ c₁ e₁, finite n₂ c₂ e₂ =>
    some (decide (scaled n₁ c₁ e₁ (min e₁ e₂) ≤ scaled n₂ c₂ e₂ (min e₁ e₂)))
  | infinity n₁, infinity n₂ => some (n₁ || !n₂)
  | infinity n, finite _ _ _ => some n
  | finite _ _ _, infinity n => some !n

/-- `Decimal("0")`. -/
def zero : Decimal := finite false 0 0

/-- The number that a finite decimal stands for. -/
def value (neg : Bool) (coeff : Nat) (exp : Int) : ℚ :=
  (if neg then -(coeff : ℚ) else coeff) * 10 ^ exp

theorem value_eq_scaled (neg : Bool) (coeff : Nat) {exp unit : Int} (h : unit ≤ exp) :
    value neg coeff exp = (scaled neg coeff exp unit : ℚ) * 10 ^ unit := by
  have hpow : (10 : ℚ) ^ exp = 10 ^ (exp - unit).toNat * 10 ^ unit := by
    rw [← zpow_natCast, ← zpow_add₀ (by norm_num : (10 : ℚ) ≠ 0), Int.toNat_of_nonneg (by omega)]
    congr 1; omega
  rw [value, scaled, hpow]
  cases neg
  · simp [mul_assoc]
  · simp [mul_assoc]

/-- Two decimals are the same number: finite with one value, or the same infinity. -/
def SameNumber : Decimal → Decimal → Prop
  | finite n₁ c₁ e₁, finite n₂ c₂ e₂ => value n₁ c₁ e₁ = value n₂ c₂ e₂
  | infinity n₁, infinity n₂ => n₁ = n₂
  | _, _ => False

/-- **`==` is equality of numbers.** -/
theorem eq_true_iff {d e : Decimal} : d.eq e = some true ↔ SameNumber d e := by
  cases d with
  | finite n₁ c₁ e₁ =>
    cases e with
    | finite n₂ c₂ e₂ =>
      have hpos : (10 : ℚ) ^ min e₁ e₂ ≠ 0 := zpow_ne_zero _ (by norm_num)
      have hl := value_eq_scaled n₁ c₁ (min_le_left e₁ e₂)
      have hr := value_eq_scaled n₂ c₂ (min_le_right e₁ e₂)
      simp only [eq, SameNumber, Option.some.injEq, decide_eq_true_eq]
      rw [hl, hr, mul_left_inj' hpos, Int.cast_inj]
    | infinity n => simp [eq, SameNumber]
    | nan s => cases s <;> simp [eq, SameNumber]
  | infinity n₁ =>
    cases e with
    | finite n₂ c₂ e₂ => simp [eq, SameNumber]
    | infinity n₂ => simp [eq, SameNumber]
    | nan s => cases s <;> simp [eq, SameNumber]
  | nan s =>
    cases e with
    | finite n₂ c₂ e₂ => cases s <;> simp [eq, SameNumber]
    | infinity n₂ => cases s <;> simp [eq, SameNumber]
    | nan s' => cases s <;> cases s' <;> simp [eq, SameNumber]

theorem SameNumber.symm {d e : Decimal} (h : SameNumber d e) : SameNumber e d := by
  cases d <;> cases e <;> first | exact Eq.symm h | exact h

theorem SameNumber.trans {d e f : Decimal} (h : SameNumber d e) (h' : SameNumber e f) :
    SameNumber d f := by
  cases d <;> cases e <;> cases f <;> first | exact Eq.trans h h' | exact h.elim | exact h'.elim

example : (finite false 1200 (-1)).eq (finite false 12000 (-2)) = some true := by decide

end Decimal

end Py
