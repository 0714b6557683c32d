/-
  Python values as they come out of `json.loads`, and their `str()`.

  What Python does with a value that some other service sent it is mostly `str(value)`: a text is
  itself, everything else is its `repr`.  `Json.text` is that function for all values, nested lists
  and dictionaries included, so nothing has to be assumed about what was sent.  The fact that makes
  it useful as a CHECK is `Json.eq_str_of_text`: a text that starts with a letter no other `repr`
  starts with can only have come from a text value.

  A float is kept by the digits of its `repr`, which is all that is ever read from one.

  `Python` holds the two functions of the interpreter that are left open: which characters are
  printable (a table of the Unicode database), and how a decimal is rounded to a float.
-/
import Billing.Lib.Decimal
import Billing.Lib.Dict

namespace Py

/-! ## Values -/

/-- A float, by the digits of its `repr`: `(-1)^neg * digits * 10^exp`. -/
inductive PyFloat where
  /-- A finite float. -/
  | finite (neg : Bool) (digits : Nat) (exp : Int)
  /-- `inf` or `-inf`. -/
  | inf (neg : Bool)
  /-- `nan`. -/
  | nan
  deriving DecidableEq, Repr

/-- What `json.loads` answers. -/
inductive Json where
  /-- `None`. -/
  | null
  /-- `True` or `False`. -/
  | bool (b : Bool)
  /-- An integer. -/
  | int (n : Int)
  /-- A float. -/
  | float (x : PyFloat)
  /-- A text. -/
  | str (s : String)
  /-- A list. -/
  | list (xs : List Json)
  /-- A dictionary. -/
  | dict (kvs : List (String × Json))

/-- The functions of the interpreter that are left open. -/
class Python where
  /-- `str.isprintable` for a character outside ASCII. -/
  isPrintable : Char → Bool
  /-- `float(Decimal)`. -/
  float : Decimal → PyFloat

/-! ## The text of a value -/

/-- `str(int)`. -/
def intChars (n : Int) : List Char :=
  (if n < 0 then ['-'] else []) ++ Nat.toDigits 10 n.natAbs

/-- `repr(float)`. -/
def PyFloat.reprChars : PyFloat → List Char
  | nan => "nan".toList
  | inf neg => (if neg then ['-'] else []) ++ "inf".toList
  | finite neg digits exp =>
    let ds := Nat.toDigits 10 digits
    -- how many digits stand left of the point
    let point : Int := ds.length + exp
    let number :=
      if -4 < point ∧ point ≤ 16 then
        if point ≤ 0 then '0' :: '.' :: (List.replicate (-point).toNat '0' ++ ds)
        else if (ds.length : Int) ≤ point then
          ds ++ List.replicate (point - ds.length).toNat '0' ++ ['.', '0']
        else ds.take point.toNat ++ '.' :: ds.drop point.toNat
      else
        let power := Nat.toDigits 10 (point - 1).natAbs
        ds.take 1 ++ (if ds.length = 1 then [] else '.' :: ds.drop 1) ++
          'e' :: (if point - 1 < 0 then '-' else '+') ::
            (List.replicate (2 - power.length) '0' ++ power)
    (if neg then ['-'] else []) ++ number

/-- A number in hexadecimal, filled up with zeros to a width. -/
def hexChars (width n : Nat) : List Char :=
  let ds := Nat.toDigits 16 n
  List.replicate (width - ds.length) '0' ++ ds

section Text

variable [Python]

/-- One character inside a quoted text. -/
def escapeChar (quote c : Char) : List Char :=
  let n := c.toNat
  if c = quote ∨ c = '\\' then ['\\', c]
  else if c = '\t' then ['\\', 't']
  else if c = '\n' then ['\\', 'n']
  else if c = '\r' then ['\\', 'r']
  else if n < 32 ∨ n = 127 then '\\' :: 'x' :: hexChars 2 n
  else if n < 127 then [c]
  else if Python.isPrintable c then [c]
  else if n < 0x100 then '\\' :: 'x' :: hexChars 2 n
  else if n < 0x10000 then '\\' :: 'u' :: hexChars 4 n
  else '\\' :: 'U' :: hexChars 8 n

/-- `repr(str)`. -/
def strReprChars (s : String) : List Char :=
  let quote := if '\'' ∈ s.toList ∧ '"' ∉ s.toList then '"' else '\''
  quote :: (s.toList.flatMap (escapeChar quote) ++ [quote])

namespace Json

mutual

/-- `repr(value)`. -/
def reprChars : Json → List Char
  | null => "None".toList
  | bool b => if b then "True".toList else "False".toList
  | int n => intChars n
  | float x => x.reprChars
  | str s => strReprChars s
  | list xs => '[' :: (reprItems xs ++ [']'])
  | dict kvs => '\x7b' :: (reprFields kvs ++ ['\x7d'])

/-- The items of a list, with commas between them. -/
def reprItems : List Json → List Char
  | [] => []
  | x :: rest => x.reprChars ++ ((if rest.isEmpty then [] else [',', ' ']) ++ reprItems rest)

/-- The fields of a dictionary, with commas between them. -/
def reprFields : List (String × Json) → List Char
  | [] => []
  | (k, v) :: rest =>
    strReprChars k ++ ([':', ' '] ++ (v.reprChars ++
      ((if rest.isEmpty then [] else [',', ' ']) ++ reprFields rest)))

end

/-- `str(value)`. -/
def text : Json → String
  | str s => s
  | j => String.ofList j.reprChars

/-- `bool(value)`. -/
def truthy : Json → Bool
  | null => false
  | bool b => b
  | int n => n ≠ 0
  | float (.finite _ digits _) => digits ≠ 0
  | float _ => true
  | str s => s ≠ ""
  | list xs => !xs.isEmpty
  | dict kvs => !kvs.isEmpty

@[simp] theorem text_str (s : String) : (str s).text = s := rfl

end Json

end Text

namespace Json

/-- The characters that a `repr` of something else than a text can start with. -/
def reprHeads : List Char := "NTFin-[\x7b0123456789".toList

theorem mem_reprHeads_of_isDigit {c : Char} (h : c.isDigit = true) : c ∈ reprHeads := by
  obtain ⟨hlo, hhi⟩ := toNat_of_isDigit h
  have hall : ∀ n : Fin 58, 48 ≤ n.val → Char.ofNat n.val ∈ reprHeads := by decide
  have := hall ⟨c.toNat, by omega⟩ hlo
  rwa [Char.ofNat_toNat] at this

/-- The first character of a text that starts with digits. -/
theorem reprHead_digits {n : Nat} {rest cs : List Char} {c : Char}
    (h : Nat.toDigits 10 n ++ rest = c :: cs) : c ∈ reprHeads := by
  cases hd : Nat.toDigits 10 n with
  | nil => exact absurd hd Nat.toDigits_ne_nil
  | cons d ds =>
    rw [hd, List.cons_append] at h
    obtain rfl := (List.cons.inj h).1
    exact mem_reprHeads_of_isDigit (Decimal.isDigit_of_mem_toDigits (hd ▸ List.mem_cons_self))

/-- The first character of a text that starts with an optional minus. -/
theorem reprHead_signed {b : Prop} [Decidable b] {rest cs : List Char} {c : Char}
    (hrest : ∀ cs, rest = c :: cs → c ∈ reprHeads)
    (h : (if b then ['-'] else []) ++ rest = c :: cs) : c ∈ reprHeads := by
  by_cases hb : b
  · rw [if_pos hb] at h
    rw [← (List.cons.inj h).1]; decide
  · rw [if_neg hb] at h
    exact hrest cs h

theorem reprHead_float {x : PyFloat} {c : Char} {cs : List Char} (h : x.reprChars = c :: cs) :
    c ∈ reprHeads := by
  cases x with
  | nan => obtain rfl := (List.cons.inj h).1; decide
  | inf neg =>
    refine reprHead_signed (fun cs h => ?_) h
    obtain rfl := (List.cons.inj h).1; decide
  | finite neg digits exp =>
    refine reprHead_signed (fun cs h => ?_) h
    have hlen : 0 < (Nat.toDigits 10 digits).length := Nat.length_toDigits_pos
    -- every notation puts a digit of the number, or a zero, first
    have htake : ∀ k rest, 0 < k → (Nat.toDigits 10 digits).take k ++ rest = c :: cs →
        c ∈ reprHeads := by
      intro k rest hk ht
      cases hd : Nat.toDigits 10 digits with
      | nil => exact absurd hd Nat.toDigits_ne_nil
      | cons d ds =>
        obtain ⟨k, rfl⟩ : ∃ m, k = m + 1 := ⟨k - 1, by omega⟩
        rw [hd, List.take_succ_cons, List.cons_append] at ht
        rw [← (List.cons.inj ht).1]
        exact mem_reprHeads_of_isDigit (Decimal.isDigit_of_mem_toDigits (hd ▸ List.mem_cons_self))
    simp only at h
    by_cases hplain : -4 < ((Nat.toDigits 10 digits).length : Int) + exp ∧
        ((Nat.toDigits 10 digits).length : Int) + exp ≤ 16
    · rw [if_pos hplain] at h
      split at h
      · obtain rfl := (List.cons.inj h).1; decide
      · split at h
        · rw [List.append_assoc] at h
          exact reprHead_digits h
        · exact htake _ _ (by omega) h
    · rw [if_neg hplain, List.append_assoc] at h
      exact htake _ _ Nat.one_pos h

theorem reprHead [Python] {j : Json} (hj : ∀ s, j ≠ str s) {c : Char} {cs : List Char}
    (h : j.reprChars = c :: cs) : c ∈ reprHeads := by
  cases j with
  | null => obtain rfl := (List.cons.inj h).1; decide
  | bool b => cases b <;> (obtain rfl := (List.cons.inj h).1; decide)
  | int n =>
    refine reprHead_signed (fun cs h => ?_) h
    rw [← List.append_nil (Nat.toDigits 10 n.natAbs)] at h
    exact reprHead_digits h
  | float x => exact reprHead_float h
  | str s => exact absurd rfl (hj s)
  | list xs =>
    rw [reprChars] at h
    obtain rfl := (List.cons.inj h).1; decide
  | dict kvs =>
    rw [reprChars] at h
    obtain rfl := (List.cons.inj h).1; decide

/-- **Only a text reads as a word that starts with an ordinary letter.** -/
theorem eq_str_of_text [Python] {j : Json} {w : String} {c : Char} {cs : List Char}
    (hw : w.toList = c :: cs) (hc : c ∉ reprHeads) (h : j.text = w) : j = str w := by
  by_cases hj : ∃ s, j = str s
  · obtain ⟨s, rfl⟩ := hj
    rw [← h]; rfl
  · have hne : ∀ s, j ≠ str s := fun s hs => hj ⟨s, hs⟩
    have htext : j.text = String.ofList j.reprChars := by
      cases j <;> first | rfl | exact absurd rfl (hne _)
    rw [htext] at h
    have hchars : j.reprChars = c :: cs := by rw [← hw, ← h, String.toList_ofList]
    exact absurd (reprHead hne hchars) hc

end Json

end Py
