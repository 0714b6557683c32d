/-
  Python's text operations, as far as a service reads its input with them: `str.strip`, `str.lower`
  and the reading of decimal digits.

  A text is a Lean `String`; the operations work on its list of characters.  The character classes
  are those of the Unicode database: white space is a short list, and the decimal digits are the
  runs of ten that start at `digitZeros`.
-/
import Mathlib.Data.List.DropRight

namespace Py

/-- `str.isspace` for one character. -/
def isSpace (c : Char) : Bool :=
  let n := c.toNat
  (9 ≤ n && n ≤ 13) || (28 ≤ n && n ≤ 32) || n == 0x85 || n == 0xa0 || n == 0x1680 ||
    (0x2000 ≤ n && n ≤ 0x200a) || n == 0x2028 || n == 0x2029 || n == 0x202f || n == 0x205f ||
    n == 0x3000

/-- `str.strip` on the list of characters. -/
def stripChars (cs : List Char) : List Char := (cs.dropWhile isSpace).rdropWhile isSpace

/-- `str.strip`: without the white space at both ends. -/
def strip (s : String) : String := String.ofList (stripChars s.toList)

/-- A text without white space at its ends is not changed. -/
theorem stripChars_eq_self {cs : List Char} (h : ∀ c ∈ cs, isSpace c = false) :
    stripChars cs = cs := by
  have hl : cs.dropWhile isSpace = cs := by
    rw [List.dropWhile_eq_self_iff]
    intro hpos
    rw [h _ (List.getElem_mem hpos)]
    exact Bool.false_ne_true
  rw [stripChars, hl, List.rdropWhile_eq_self_iff]
  intro hne
  rw [h _ (List.getLast_mem hne)]
  exact Bool.false_ne_true

/-- Stripping twice is stripping once. -/
theorem stripChars_idem (cs : List Char) : stripChars (stripChars cs) = stripChars cs := by
  have hl : (stripChars cs).dropWhile isSpace = stripChars cs := by
    rw [List.dropWhile_eq_self_iff]
    intro hpos hsp
    -- the head of the stripped text is the head of what the left strip left over
    obtain ⟨rest, hrest⟩ := List.rdropWhile_prefix isSpace (cs.dropWhile isSpace)
    have hpos' : 0 < (cs.dropWhile isSpace).length := by
      rw [← hrest, List.length_append]
      exact Nat.lt_of_lt_of_le hpos (Nat.le_add_right _ _)
    have hget : (cs.dropWhile isSpace)[0] = (stripChars cs)[0] :=
      (List.getElem_of_eq hrest.symm hpos').trans (List.getElem_append_left hpos)
    have hidem := List.dropWhile_idempotent (p := isSpace) (l := cs)
    rw [List.dropWhile_eq_self_iff] at hidem
    exact hidem hpos' (hget ▸ hsp)
  rw [stripChars, hl, stripChars, List.rdropWhile_idempotent]

theorem strip_strip (s : String) : strip (strip s) = strip s := by
  rw [strip, strip, String.toList_ofList, stripChars_idem]

/-- A text that begins and ends with something else than white space is not changed. -/
theorem stripChars_enclosed {c d : Char} (hc : isSpace c = false) (hd : isSpace d = false)
    (cs : List Char) : stripChars (c :: (cs ++ [d])) = c :: (cs ++ [d]) := by
  have hleft : (c :: (cs ++ [d])).dropWhile isSpace = c :: (cs ++ [d]) :=
    List.dropWhile_cons_of_neg (by rw [hc]; exact Bool.false_ne_true)
  have hright : ¬ isSpace d = true := by rw [hd]; exact Bool.false_ne_true
  rw [stripChars, hleft, ← List.cons_append, List.rdropWhile_concat_neg _ _ _ hright]

/-- What is left begins with the first character that is no white space. -/
theorem head?_stripChars (cs : List Char) : (stripChars cs).head? = (cs.dropWhile isSpace).head? := by
  obtain ⟨rest, hrest⟩ := List.rdropWhile_prefix isSpace (cs.dropWhile isSpace)
  cases hdrop : cs.dropWhile isSpace with
  | nil => rw [stripChars, hdrop]; rfl
  | cons c ds =>
    have hc : isSpace c = false := by
      have hhead := List.dropWhile_idempotent (p := isSpace) (l := cs)
      rw [hdrop, List.dropWhile_eq_self_iff] at hhead
      exact Bool.eq_false_iff.mpr (hhead (Nat.succ_pos _))
    cases hstrip : stripChars cs with
    | nil =>
      -- the first character alone keeps the right end from being stripped away
      rw [stripChars, hdrop, List.rdropWhile_eq_nil_iff] at hstrip
      exact absurd (hstrip c List.mem_cons_self) (by rw [hc]; exact Bool.false_ne_true)
    | cons d es =>
      rw [stripChars, hdrop] at hstrip
      rw [hdrop, hstrip, List.cons_append] at hrest
      rw [List.head?_cons, List.head?_cons, (List.cons.inj hrest).1]

/-- A text is stripped when no white space stands at its ends. -/
theorem stripChars_eq_self_iff {cs : List Char} : stripChars cs = cs ↔
    (∀ c ∈ cs.head?, isSpace c = false) ∧ ∀ c ∈ cs.getLast?, isSpace c = false := by
  cases cs with
  | nil => exact ⟨fun _ => ⟨fun c hc => (by cases hc), fun c hc => (by cases hc)⟩, fun _ => rfl⟩
  | cons c cs =>
    have hne : c :: cs ≠ [] := List.cons_ne_nil _ _
    rw [List.getLast?_eq_some_getLast hne]
    constructor
    · intro h
      have hright := List.rdropWhile_prefix isSpace ((c :: cs).dropWhile isSpace)
      have hleft := List.dropWhile_suffix (l := c :: cs) isSpace
      have hlen := congrArg List.length h
      rw [stripChars] at hlen
      have hdrop : (c :: cs).dropWhile isSpace = c :: cs :=
        hleft.eq_of_length_le (hlen ▸ hright.length_le)
      rw [stripChars, hdrop, List.rdropWhile_eq_self_iff] at h
      rw [List.dropWhile_eq_self_iff] at hdrop
      refine ⟨fun d hd => ?_, fun d hd => ?_⟩
      · rw [← Option.some.inj hd]
        exact Bool.eq_false_iff.mpr (hdrop (Nat.succ_pos _))
      · rw [← Option.some.inj hd]
        exact Bool.eq_false_iff.mpr (h hne)
    · rintro ⟨hhead, hlast⟩
      have hc : ¬ isSpace c = true := by rw [hhead c rfl]; exact Bool.false_ne_true
      have hd : ¬ isSpace ((c :: cs).getLast hne) = true := by
        rw [hlast _ rfl]; exact Bool.false_ne_true
      rw [stripChars, List.dropWhile_cons_of_neg hc, List.rdropWhile_eq_self_iff]
      exact fun _ => hd

/-- Stripping leaves characters out and adds none. -/
theorem stripChars_sublist (cs : List Char) : (stripChars cs).Sublist cs :=
  (List.rdropWhile_prefix isSpace _).sublist.trans (List.dropWhile_suffix isSpace).sublist

/-- Nothing but white space is stripped. -/
theorem mem_stripChars_iff {c : Char} (hc : isSpace c = false) (cs : List Char) :
    c ∈ stripChars cs ↔ c ∈ cs := by
  have hdrop : ∀ cs : List Char, c ∈ cs.dropWhile isSpace ↔ c ∈ cs := by
    intro cs
    refine ⟨fun h => (List.dropWhile_suffix isSpace).subset h, fun h => ?_⟩
    rw [← List.takeWhile_append_dropWhile (p := isSpace) (l := cs), List.mem_append] at h
    refine h.resolve_left fun htake => ?_
    rw [List.mem_takeWhile_imp htake] at hc
    cases hc
  rw [stripChars, List.rdropWhile, List.mem_reverse, hdrop, List.mem_reverse, hdrop]

/-- `[text.strip() for text in texts if text.strip()]`. -/
def stripAll (texts : List String) : List String :=
  (texts.filter fun text => decide (strip text ≠ "")).map strip

theorem mem_stripAll {texts : List String} {text : String} (h : text ∈ stripAll texts) :
    strip text = text ∧ text ≠ "" := by
  obtain ⟨text, hmem, rfl⟩ := List.mem_map.mp h
  exact ⟨strip_strip text, of_decide_eq_true (List.mem_filter.mp hmem).2⟩

/-- What was stripped stays as it is. -/
theorem stripAll_stripAll (texts : List String) : stripAll (stripAll texts) = stripAll texts := by
  have hkept : ∀ text ∈ stripAll texts, decide (strip text ≠ "") = true := by
    intro text h
    rw [(mem_stripAll h).1]
    exact decide_eq_true (mem_stripAll h).2
  have hmap : (stripAll texts).map strip = (stripAll texts).map id :=
    List.map_congr_left fun text h => (mem_stripAll h).1
  rw [stripAll, List.filter_eq_self.mpr hkept, hmap, List.map_id]

/-- `text.split(sep)`, for one character. -/
def splitOnChar (sep : Char) (text : String) : List String :=
  (text.toList.splitOn sep).map String.ofList

/-- `str.lower` for one character.  Of the characters outside ASCII only two have a lower case with
    an ASCII letter in it (`İ` and the Kelvin sign); the others are left as they are, which no
    comparison with an ASCII word can tell from their own lower case. -/
def lowerChar (c : Char) : List Char :=
  if c = Char.ofNat 0x130 then ['i', Char.ofNat 0x307]
  else if c = Char.ofNat 0x212a then ['k']
  else [c.toLower]

/-- `str.lower`. -/
def lower (s : String) : String := String.ofList (s.toList.flatMap lowerChar)

/-- `str.upper`, which is left open but for what is relied on: white space has no upper case, the upper
    case of anything else is not white space, upper case stays as it is, and for ASCII it is known. -/
class UpperCase where
  /-- `str.upper` of one character. -/
  upperChar : Char → List Char
  upperChar_space : ∀ c, isSpace c = true → upperChar c = [c]
  upperChar_ne_nil : ∀ c, upperChar c ≠ []
  isSpace_upperChar : ∀ c, isSpace c = false → ∀ d ∈ upperChar c, isSpace d = false
  upperChar_idem : ∀ c, (upperChar c).flatMap upperChar = upperChar c
  upperChar_ascii : ∀ c, c.toNat < 128 → upperChar c = [c.toUpper]

/-- `str.upper`. -/
def upper [UpperCase] (s : String) : String := String.ofList (s.toList.flatMap UpperCase.upperChar)

section Upper

variable [UpperCase]

theorem toList_upper (s : String) : (upper s).toList = s.toList.flatMap UpperCase.upperChar := by
  rw [upper, String.toList_ofList]

theorem upper_upper (s : String) : upper (upper s) = upper s := by
  rw [← String.toList_inj, toList_upper, toList_upper, List.flatMap_assoc]
  simp only [UpperCase.upperChar_idem]

theorem upper_ascii {s : String} (h : ∀ c ∈ s.toList, c.toNat < 128) :
    upper s = String.ofList (s.toList.map Char.toUpper) := by
  rw [upper]
  congr 1
  generalize s.toList = cs at h
  induction cs with
  | nil => rfl
  | cons c cs ih =>
    rw [List.flatMap_cons, UpperCase.upperChar_ascii c (h c List.mem_cons_self),
      ih fun d hd => h d (List.mem_cons_of_mem _ hd)]
    rfl

theorem upper_eq_empty_iff {s : String} : upper s = "" ↔ s = "" := by
  rw [← String.toList_inj, ← String.toList_inj, toList_upper]
  constructor
  · intro h
    cases hs : s.toList with
    | nil => rfl
    | cons c cs =>
      rw [hs, List.flatMap_cons] at h
      exact absurd (List.append_eq_nil_iff.mp h).1 (UpperCase.upperChar_ne_nil c)
  · intro h
    rw [h]
    rfl

/-- White space stays where it is, and there is no new one. -/
theorem isSpace_upper_iff {c d : Char} (h : d ∈ UpperCase.upperChar c) : isSpace d = isSpace c := by
  cases hc : isSpace c with
  | true =>
    rw [UpperCase.upperChar_space c hc, List.mem_singleton] at h
    rw [h, hc]
  | false => exact UpperCase.isSpace_upperChar c hc d h

/-- A stripped text is stripped in upper case too. -/
theorem strip_upper {s : String} (h : strip s = s) : strip (upper s) = upper s := by
  have hs : stripChars s.toList = s.toList := by
    rw [← String.toList_inj, strip, String.toList_ofList] at h
    exact h
  rw [strip, upper, String.toList_ofList]
  congr 1
  rw [stripChars_eq_self_iff] at hs ⊢
  obtain ⟨hhead, hlast⟩ := hs
  -- the first and the last character of the upper case come from the first and the last character
  have hmem : ∀ {c d : Char} {cs : List Char}, (d ∈ (UpperCase.upperChar c ++ cs).head? →
      d ∈ UpperCase.upperChar c) ∧ (d ∈ (cs ++ UpperCase.upperChar c).getLast? →
      d ∈ UpperCase.upperChar c) := by
    intro c d cs
    have hne := UpperCase.upperChar_ne_nil c
    rw [List.head?_append_of_ne_nil _ hne, List.getLast?_append_of_ne_nil _ hne]
    exact ⟨List.mem_of_mem_head?, List.mem_of_mem_getLast?⟩
  refine ⟨fun d hd => ?_, fun d hd => ?_⟩
  · cases hcs : s.toList with
    | nil => rw [hcs] at hd; cases hd
    | cons c cs =>
      rw [hcs, List.flatMap_cons] at hd
      rw [hcs] at hhead
      rw [isSpace_upper_iff (hmem.1 hd), hhead c rfl]
  · rcases List.eq_nil_or_concat s.toList with hcs | ⟨cs, c, hcs⟩
    · rw [hcs] at hd
      cases hd
    · rw [List.concat_eq_append] at hcs
      rw [hcs, List.flatMap_append, List.flatMap_singleton] at hd
      rw [hcs, List.getLast?_concat] at hlast
      rw [isSpace_upper_iff (hmem.2 hd), hlast c rfl]

end Upper

/-- The characters for the digit zero; each is followed by the digits one to nine of its script. -/
def digitZeros : List Nat :=
  [0x30, 0x660, 0x6f0, 0x7c0, 0x966, 0x9e6, 0xa66, 0xae6, 0xb66, 0xbe6, 0xc66, 0xce6, 0xd66, 0xde6,
    0xe50, 0xed0, 0xf20, 0x1040, 0x1090, 0x17e0, 0x1810, 0x1946, 0x19d0, 0x1a80, 0x1a90, 0x1b50,
    0x1bb0, 0x1c40, 0x1c50, 0xa620, 0xa8d0, 0xa900, 0xa9d0, 0xa9f0, 0xaa50, 0xabf0, 0xff10, 0x104a0,
    0x10d30, 0x11066, 0x110f0, 0x11136, 0x111d0, 0x112f0, 0x11450, 0x114d0, 0x11650, 0x116c0,
    0x11730, 0x118e0, 0x11950, 0x11c50, 0x11d50, 0x11da0, 0x16a60, 0x16ac0, 0x16b50, 0x1d7ce,
    0x1d7d8, 0x1d7e2, 0x1d7ec, 0x1d7f6, 0x1e140, 0x1e2f0, 0x1e950, 0x1fbf0]

/-- A decimal digit of any script as the ASCII digit of the same value; other characters stay. -/
def asciiDigit (c : Char) : Char :=
  if c.toNat < 128 then c
  else
    match digitZeros.find? fun z => decide (z ≤ c.toNat ∧ c.toNat < z + 10) with
    | none => c
    | some z => Nat.digitChar (c.toNat - z)

theorem asciiDigit_of_ascii {c : Char} (h : c.toNat < 128) : asciiDigit c = c := by
  rw [asciiDigit, if_pos h]

/-- The ASCII digits are ten characters in a row. -/
theorem toNat_of_isDigit {c : Char} (h : c.isDigit = true) : 48 ≤ c.toNat ∧ c.toNat ≤ 57 := by
  simp only [Char.isDigit, Bool.and_eq_true, decide_eq_true_eq] at h
  constructor
  · simpa using UInt32.le_iff_toNat_le.mp h.1
  · simpa using UInt32.le_iff_toNat_le.mp h.2

example : strip " \u00a0 Approved\n" = "Approved" := by decide
example : lower "Charged_BacK" = "charged_back" := by decide

end Py
