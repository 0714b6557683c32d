/-
  JSON as a text: `json.loads` and `json.dumps(value, separators=(",", ":"))`.

  The reader is the scanner of Python's `json` module with its dialect: `NaN`, `Infinity` and
  `-Infinity` are numbers, a key that occurs twice keeps its place and takes the later value, no
  control character may stand in a text, and a `\uXXXX` escape of one half of a surrogate pair is only
  half a character unless the other half follows.  A lone half, which a Lean text cannot hold, is read
  as U+FFFD.  Every call consumes a character before it nests, so `loads` gives it enough fuel with
  twice the length of the text.

  The writer escapes everything outside printable ASCII.

  **Round trip** (`loads_dumps`): what is built from texts, lists and dictionaries with distinct keys
  is read back as it was written, whatever the texts are.
-/
import Billing.Lib.Json

namespace Py

namespace Json

/-! ## Reading a text -/

/-- White space between tokens. -/
def isWhite (c : Char) : Bool := c == ' ' || c == '\t' || c == '\n' || c == '\r'

/-- The rest after white space. -/
def skipWhite (cs : List Char) : List Char := cs.dropWhile isWhite

/-- The value of a hexadecimal digit. -/
def hexValue (c : Char) : Option Nat :=
  let n := c.toNat
  if 48 ≤ n ∧ n ≤ 57 then some (n - 48)
  else if 97 ≤ n ∧ n ≤ 102 then some (n - 87)
  else if 65 ≤ n ∧ n ≤ 70 then some (n - 55)
  else none

/-- Four hexadecimal digits. -/
def readHex : List Char → Option (Nat × List Char)
  | a :: b :: c :: d :: rest => do
    let a ← hexValue a
    let b ← hexValue b
    let c ← hexValue c
    let d ← hexValue d
    return (((a * 16 + b) * 16 + c) * 16 + d, rest)
  | _ => none

/-- A code unit that is one half of a surrogate pair alone. -/
def loneSurrogate : Char := Char.ofNat 0xfffd

/-- After `\u`: four digits, and four more for the other half of a surrogate pair. -/
def readUnicode (cs : List Char) : Option (Char × List Char) :=
  match readHex cs with
  | none => none
  | some (n, rest) =>
    if 0xd800 ≤ n ∧ n < 0xdc00 then
      match rest with
      | '\\' :: 'u' :: rest' =>
        match readHex rest' with
        | none => none
        | some (m, rest'') =>
          if 0xdc00 ≤ m ∧ m < 0xe000 then
            some (Char.ofNat (0x10000 + (n - 0xd800) * 0x400 + (m - 0xdc00)), rest'')
          else some (loneSurrogate, rest)
      | _ => some (loneSurrogate, rest)
    else if 0xdc00 ≤ n ∧ n < 0xe000 then some (loneSurrogate, rest)
    else some (Char.ofNat n, rest)

/-- After a backslash. -/
def readEscape : List Char → Option (Char × List Char)
  | '"' :: rest => some ('"', rest)
  | '\\' :: rest => some ('\\', rest)
  | '/' :: rest => some ('/', rest)
  | 'b' :: rest => some (Char.ofNat 8, rest)
  | 'f' :: rest => some (Char.ofNat 12, rest)
  | 'n' :: rest => some ('\n', rest)
  | 'r' :: rest => some ('\r', rest)
  | 't' :: rest => some ('\t', rest)
  | 'u' :: rest => readUnicode rest
  | _ => none

/-- One character of a text. -/
def readChar : List Char → Option (Char × List Char)
  | '\\' :: rest => readEscape rest
  | c :: rest => if c.toNat < 32 then none else some (c, rest)
  | [] => none

/-- The rest of a text, after its opening quote. -/
def readText : Nat → List Char → Option (List Char × List Char)
  | 0, _ => none
  | fuel + 1, cs =>
    match cs with
    | '"' :: rest => some ([], rest)
    | cs =>
      match readChar cs with
      | none => none
      | some (c, rest) => (readText fuel rest).map fun (s, rest) => (c :: s, rest)

/-! ## Reading a number -/

/-- The digits at the front, and the rest. -/
def readDigits (cs : List Char) : List Char × List Char :=
  (cs.takeWhile Char.isDigit, cs.dropWhile Char.isDigit)

/-- `.` and digits, if both are there. -/
def readFraction (cs : List Char) : List Char × List Char :=
  match cs with
  | '.' :: rest => if (readDigits rest).1 = [] then ([], cs) else readDigits rest
  | _ => ([], cs)

/-- An exponent, if there is one. -/
def readExponent (cs : List Char) : Option Int × List Char :=
  match cs with
  | c :: rest =>
    if c = 'e' ∨ c = 'E' then
      let (neg, rest) : Bool × List Char :=
        match rest with
        | '+' :: rest => (false, rest)
        | '-' :: rest => (true, rest)
        | rest => (false, rest)
      let (ds, rest) := readDigits rest
      if ds = [] then (none, cs)
      else (some (if neg then -(Decimal.natOf ds : Int) else Decimal.natOf ds), rest)
    else (none, cs)
  | [] => (none, cs)

/-- A number: an integer of at most 4300 digits, or a float. -/
def readNumber [Python] (cs : List Char) : Option (Json × List Char) :=
  let (neg, cs) : Bool × List Char :=
    match cs with
    | '-' :: rest => (true, rest)
    | cs => (false, cs)
  let (whole, cs) : List Char × List Char :=
    match cs with
    | '0' :: rest => (['0'], rest)
    | cs => readDigits cs
  let (fraction, cs) := readFraction cs
  let (exponent, cs) := readExponent cs
  if whole = [] then none
  else if fraction = [] ∧ exponent = none then
    if 4300 < whole.length then none
    else
      let n := Decimal.natOf whole
      some (.int (if neg then -(n : Int) else n), cs)
  else
    some (.float (Python.float
      (.finite neg (Decimal.natOf (whole ++ fraction)) (exponent.getD 0 - fraction.length))), cs)

/-! ## Reading a value -/

/-- The constants and what they stand for. -/
def constants : List (List Char × Json) :=
  [("null".toList, .null), ("true".toList, .bool true), ("false".toList, .bool false),
    ("NaN".toList, .float .nan), ("Infinity".toList, .float (.inf false)),
    ("-Infinity".toList, .float (.inf true))]

/-- A constant at the front. -/
def readConstant (cs : List Char) : Option (Json × List Char) :=
  constants.findSome? fun (word, j) =>
    if word.isPrefixOf cs then some (j, cs.drop word.length) else none

section Values

variable [Python]

mutual

/-- A value at the front. -/
def readValue : Nat → List Char → Option (Json × List Char)
  | 0, _ => none
  | fuel + 1, cs =>
    match cs with
    | '"' :: rest =>
      (readText (rest.length + 1) rest).map fun (s, rest) => (.str (String.ofList s), rest)
    | '\x7b' :: rest =>
      match skipWhite rest with
      | '\x7d' :: rest => some (.dict [], rest)
      | rest => readFields fuel [] rest
    | '[' :: rest =>
      match skipWhite rest with
      | ']' :: rest => some (.list [], rest)
      | rest => readItems fuel [] rest
    | cs => (readConstant cs).orElse fun _ => readNumber cs

/-- The rest of a list, from an item on. -/
def readItems : Nat → List Json → List Char → Option (Json × List Char)
  | 0, _, _ => none
  | fuel + 1, xs, cs =>
    match readValue fuel cs with
    | none => none
    | some (x, rest) =>
      match skipWhite rest with
      | ',' :: rest => readItems fuel (xs ++ [x]) (skipWhite rest)
      | ']' :: rest => some (.list (xs ++ [x]), rest)
      | _ => none

/-- The rest of a dictionary, from a key on. -/
def readFields : Nat → Dict Json → List Char → Option (Json × List Char)
  | 0, _, _ => none
  | fuel + 1, kvs, cs =>
    match cs with
    | '"' :: rest =>
      match readText (rest.length + 1) rest with
      | none => none
      | some (key, rest) =>
        match skipWhite rest with
        | ':' :: rest =>
          match readValue fuel (skipWhite rest) with
          | none => none
          | some (value, rest) =>
            match skipWhite rest with
            | ',' :: rest => readFields fuel (kvs.set (String.ofList key) value) (skipWhite rest)
            | '\x7d' :: rest => some (.dict (kvs.set (String.ofList key) value), rest)
            | _ => none
        | _ => none
    | _ => none

end

/-- `json.loads(text)` (`none`: it raises `JSONDecodeError`, or `ValueError` for a huge integer). -/
def loads (text : String) : Option Json :=
  let cs := text.toList
  if cs.head? = some (Char.ofNat 0xfeff) then none
  else
    match readValue (2 * cs.length + 1) (skipWhite cs) with
    | some (j, rest) => if skipWhite rest = [] then some j else none
    | none => none

end Values

/-! ## Writing -/

/-- Four hexadecimal digits. -/
def dumpHex (n : Nat) : List Char :=
  [Nat.digitChar (n / 0x1000 % 16), Nat.digitChar (n / 0x100 % 16), Nat.digitChar (n / 0x10 % 16),
    Nat.digitChar (n % 16)]

/-- A code unit as an escape. -/
def dumpUnit (n : Nat) : List Char := '\\' :: 'u' :: dumpHex n

/-- One character of a text. -/
def dumpChar (c : Char) : List Char :=
  let n := c.toNat
  if c = '"' then ['\\', '"']
  else if c = '\\' then ['\\', '\\']
  else if c = '\n' then ['\\', 'n']
  else if c = '\r' then ['\\', 'r']
  else if c = '\t' then ['\\', 't']
  else if n = 12 then ['\\', 'f']
  else if n = 8 then ['\\', 'b']
  else if 32 ≤ n ∧ n ≤ 126 then [c]
  else if n < 0x10000 then dumpUnit n
  else dumpUnit (0xd800 + (n - 0x10000) / 0x400) ++ dumpUnit (0xdc00 + (n - 0x10000) % 0x400)

/-- A text in quotes. -/
def dumpText (s : String) : List Char := '"' :: (s.toList.flatMap dumpChar ++ ['"'])

/-- `float.__repr__`, with the words of JSON for what is no number. -/
def dumpFloat : PyFloat → List Char
  | .nan => "NaN".toList
  | .inf neg => (if neg then ['-'] else []) ++ "Infinity".toList
  | x => x.reprChars

mutual

/-- The characters of a value. -/
def dumpChars : Json → List Char
  | null => "null".toList
  | bool b => if b then "true".toList else "false".toList
  | int n => intChars n
  | float x => dumpFloat x
  | str s => dumpText s
  | list xs => '[' :: (dumpItems xs ++ [']'])
  | dict kvs => '\x7b' :: (dumpFields kvs ++ ['\x7d'])

/-- The items of a list, with commas between them. -/
def dumpItems : List Json → List Char
  | [] => []
  | x :: rest => x.dumpChars ++ ((if rest.isEmpty then [] else [',']) ++ dumpItems rest)

/-- The fields of a dictionary, with commas between them. -/
def dumpFields : List (String × Json) → List Char
  | [] => []
  | (k, v) :: rest =>
    dumpText k ++ (':' :: (v.dumpChars ++ ((if rest.isEmpty then [] else [',']) ++ dumpFields rest)))

end

/-- `json.dumps(value, separators=(",", ":"))`. -/
def dumps (j : Json) : String := String.ofList j.dumpChars

/-! ## Round trip: texts -/

theorem hexValue_digitChar : ∀ d < 16, hexValue (Nat.digitChar d) = some d := by decide

theorem readHex_dumpHex {n : Nat} (h : n < 0x10000) (rest : List Char) :
    readHex (dumpHex n ++ rest) = some (n, rest) := by
  have hvalue : ((n / 0x1000 % 16 * 16 + n / 0x100 % 16) * 16 + n / 0x10 % 16) * 16 + n % 16 = n := by
    omega
  simp only [dumpHex, List.cons_append, List.nil_append, readHex,
    hexValue_digitChar _ (Nat.mod_lt _ (by omega : 0 < 16)), Option.bind_eq_bind, Option.bind_some,
    hvalue]
  rfl

/-- The code points of characters leave out the surrogates. -/
theorem toNat_valid (c : Char) : c.toNat < 0xd800 ∨ 0xdfff < c.toNat ∧ c.toNat < 0x110000 := c.valid

theorem readUnicode_unit {c : Char} (h : c.toNat < 0x10000) (rest : List Char) :
    readUnicode (dumpHex c.toNat ++ rest) = some (c, rest) := by
  have hvalid := toNat_valid c
  have hhigh : ¬ (0xd800 ≤ c.toNat ∧ c.toNat < 0xdc00) := by omega
  have hlow : ¬ (0xdc00 ≤ c.toNat ∧ c.toNat < 0xe000) := by omega
  unfold readUnicode
  simp only [readHex_dumpHex h, if_neg hhigh, if_neg hlow, Char.ofNat_toNat]

/-- The two halves of a surrogate pair. -/
theorem readUnicode_join {cs rest rest' : List Char} {hi lo : Nat}
    (hhi : readHex cs = some (hi, '\\' :: 'u' :: rest)) (hlo : readHex rest = some (lo, rest'))
    (hhigh : 0xd800 ≤ hi ∧ hi < 0xdc00) (hlow : 0xdc00 ≤ lo ∧ lo < 0xe000) :
    readUnicode cs = some (Char.ofNat (0x10000 + (hi - 0xd800) * 0x400 + (lo - 0xdc00)), rest') := by
  unfold readUnicode
  simp only [hhi, hlo, if_pos hhigh, if_pos hlow]

theorem readUnicode_pair {c : Char} (h : 0x10000 ≤ c.toNat) (rest : List Char) :
    readUnicode (dumpHex (0xd800 + (c.toNat - 0x10000) / 0x400) ++
      '\\' :: 'u' :: (dumpHex (0xdc00 + (c.toNat - 0x10000) % 0x400) ++ rest)) = some (c, rest) := by
  have hvalid := toNat_valid c
  have hhigh : 0xd800 ≤ 0xd800 + (c.toNat - 0x10000) / 0x400 ∧
      0xd800 + (c.toNat - 0x10000) / 0x400 < 0xdc00 := by omega
  have hlow : 0xdc00 ≤ 0xdc00 + (c.toNat - 0x10000) % 0x400 ∧
      0xdc00 + (c.toNat - 0x10000) % 0x400 < 0xe000 := by omega
  have hjoin : 0x10000 + (0xd800 + (c.toNat - 0x10000) / 0x400 - 0xd800) * 0x400 +
      (0xdc00 + (c.toNat - 0x10000) % 0x400 - 0xdc00) = c.toNat := by omega
  rw [readUnicode_join (readHex_dumpHex (by omega) _) (readHex_dumpHex (by omega) rest) hhigh hlow,
    hjoin, Char.ofNat_toNat]

theorem readChar_dumpUnit (n : Nat) (rest : List Char) :
    readChar (dumpUnit n ++ rest) = readUnicode (dumpHex n ++ rest) := rfl

theorem dumpUnit_append (n : Nat) (rest : List Char) :
    dumpUnit n ++ rest = '\\' :: 'u' :: (dumpHex n ++ rest) := rfl

/-- **A character is read back**, however it was written. -/
theorem readChar_dumpChar (c : Char) (rest : List Char) :
    readChar (dumpChar c ++ rest) = some (c, rest) := by
  have hof : ∀ n, c.toNat = n → Char.ofNat n = c := fun n hn => by rw [← hn, Char.ofNat_toNat]
  unfold dumpChar
  simp only
  split
  · rename_i h; subst h; rfl
  split
  · rename_i h; subst h; rfl
  split
  · rename_i h; subst h; rfl
  split
  · rename_i h; subst h; rfl
  split
  · rename_i h; subst h; rfl
  split
  · rename_i h; rw [← hof _ h]; rfl
  split
  · rename_i h; rw [← hof _ h]; rfl
  split
  · rename_i hquote hback _ _ _ _ _ h
    -- a character that stands for itself
    show readChar (c :: rest) = _
    rw [readChar.eq_def]
    split
    · rename_i heq; exact absurd (List.cons.inj heq).1 hback
    · rename_i heq
      obtain ⟨rfl, rfl⟩ := List.cons.inj heq
      rw [if_neg (by omega)]
    · rename_i heq; cases heq
  split
  · rename_i h
    rw [readChar_dumpUnit, readUnicode_unit h]
  · rename_i h
    rw [List.append_assoc, readChar_dumpUnit, dumpUnit_append, readUnicode_pair (by omega)]

/-- What is written for a character does not start with a quote. -/
theorem dumpChar_head (c : Char) : ∃ d cs, dumpChar c = d :: cs ∧ d ≠ '"' := by
  unfold dumpChar
  simp only
  split
  · exact ⟨_, _, rfl, by decide⟩
  split
  · exact ⟨_, _, rfl, by decide⟩
  split
  · exact ⟨_, _, rfl, by decide⟩
  split
  · exact ⟨_, _, rfl, by decide⟩
  split
  · exact ⟨_, _, rfl, by decide⟩
  split
  · exact ⟨_, _, rfl, by decide⟩
  split
  · exact ⟨_, _, rfl, by decide⟩
  split
  · rename_i hquote _ _ _ _ _ _ _
    exact ⟨_, _, rfl, hquote⟩
  split
  · exact ⟨_, _, rfl, by decide⟩
  · exact ⟨_, _, rfl, by decide⟩

/-- What is written for a text is printable ASCII. -/
theorem printable_dumpText (s : String) :
    ∀ c ∈ dumpText s, 32 ≤ c.toNat ∧ c.toNat ≤ 126 := by
  have hdigit : ∀ d < 16, 32 ≤ (Nat.digitChar d).toNat ∧ (Nat.digitChar d).toNat ≤ 126 := by decide
  have hunit : ∀ n, ∀ c ∈ dumpUnit n, 32 ≤ c.toNat ∧ c.toNat ≤ 126 := by
    intro n c hc
    have hmod : ∀ m, m % 16 < 16 := fun m => Nat.mod_lt _ (by decide)
    simp only [dumpUnit, dumpHex, List.mem_cons, List.not_mem_nil, or_false] at hc
    rcases hc with rfl | rfl | rfl | rfl | rfl | rfl
    · decide
    · decide
    · exact hdigit _ (hmod _)
    · exact hdigit _ (hmod _)
    · exact hdigit _ (hmod _)
    · exact hdigit _ (hmod _)
  have hpair : ∀ d : Char, 32 ≤ d.toNat ∧ d.toNat ≤ 126 → ∀ c ∈ ['\\', d],
      32 ≤ c.toNat ∧ c.toNat ≤ 126 := by
    intro d hd c hc
    rcases List.mem_cons.mp hc with rfl | hc
    · decide
    · rw [List.mem_singleton.mp hc]
      exact hd
  have hchar : ∀ d, ∀ c ∈ dumpChar d, 32 ≤ c.toNat ∧ c.toNat ≤ 126 := by
    intro d
    unfold dumpChar
    simp only
    split_ifs with _ _ _ _ _ _ _ hprint
    · exact hpair _ (by decide)
    · exact hpair _ (by decide)
    · exact hpair _ (by decide)
    · exact hpair _ (by decide)
    · exact hpair _ (by decide)
    · exact hpair _ (by decide)
    · exact hpair _ (by decide)
    · intro c hc
      rw [List.mem_singleton.mp hc]
      exact hprint
    · exact hunit _
    · exact List.forall_mem_append.mpr ⟨hunit _, hunit _⟩
  intro c hc
  rcases List.mem_cons.mp hc with rfl | hc
  · decide
  rcases List.mem_append.mp hc with hc | hc
  · obtain ⟨d, -, hd⟩ := List.mem_flatMap.mp hc
    exact hchar d c hd
  · rw [List.mem_singleton.mp hc]
    decide

/-- **A writer whose characters are read back** has its texts read back. -/
theorem readText_written {write : Char → List Char} (hhead : ∀ c, ∃ d ds, write c = d :: ds ∧ d ≠ '"')
    (hread : ∀ c rest, readChar (write c ++ rest) = some (c, rest)) (cs rest : List Char) :
    ∀ fuel, cs.length < fuel → readText fuel (cs.flatMap write ++ '"' :: rest) = some (cs, rest) := by
  induction cs with
  | nil =>
    intro fuel h
    obtain ⟨fuel, rfl⟩ : ∃ n, fuel = n + 1 := ⟨fuel - 1, by simp at h; omega⟩
    rfl
  | cons c cs ih =>
    intro fuel h
    obtain ⟨fuel, rfl⟩ : ∃ n, fuel = n + 1 := ⟨fuel - 1, by omega⟩
    obtain ⟨d, ds, hd, hquote⟩ := hhead c
    have hchar := hread c (cs.flatMap write ++ '"' :: rest)
    rw [List.flatMap_cons, List.append_assoc]
    rw [hd, List.cons_append] at hchar ⊢
    rw [readText.eq_def]
    simp only
    split
    · rename_i heq; exact absurd (List.cons.inj heq).1 hquote
    · rw [hchar]
      simp only
      rw [ih fuel (by simpa using h)]
      rfl

theorem length_le_written {write : Char → List Char} (hhead : ∀ c, ∃ d ds, write c = d :: ds ∧ d ≠ '"')
    (cs : List Char) : cs.length ≤ (cs.flatMap write).length := by
  induction cs with
  | nil => exact Nat.le_refl _
  | cons c cs ih =>
    obtain ⟨d, ds, hd, _⟩ := hhead c
    rw [List.flatMap_cons, hd, List.length_append, List.length_cons, List.length_cons]
    omega

theorem readText_dump (cs rest : List Char) : ∀ fuel, cs.length < fuel →
    readText fuel (cs.flatMap dumpChar ++ '"' :: rest) = some (cs, rest) :=
  readText_written dumpChar_head readChar_dumpChar cs rest

theorem length_le_flatMap_dumpChar (cs : List Char) : cs.length ≤ (cs.flatMap dumpChar).length :=
  length_le_written dumpChar_head cs

/-- **A text is read back**, after its opening quote. -/
theorem readText_dumpText (s : String) (rest : List Char) :
    readText (((s.toList.flatMap dumpChar ++ ['"']) ++ rest).length + 1)
      ((s.toList.flatMap dumpChar ++ ['"']) ++ rest) = some (s.toList, rest) := by
  have hlen := length_le_flatMap_dumpChar s.toList
  rw [List.append_assoc, List.singleton_append]
  refine readText_dump s.toList rest _ ?_
  rw [List.length_append]
  omega

/-! ## Round trip: values -/

/-- Built from texts, lists, and dictionaries with distinct keys. -/
inductive Textual : Json → Prop where
  /-- A text. -/
  | str (s : String) : Textual (.str s)
  /-- A list. -/
  | list (xs : List Json) (h : ∀ x ∈ xs, Textual x) : Textual (.list xs)
  /-- A dictionary. -/
  | dict (kvs : List (String × Json)) (hkeys : (kvs.map Prod.fst).Nodup)
      (h : ∀ kv ∈ kvs, Textual kv.2) : Textual (.dict kvs)

theorem skipWhite_cons {c : Char} (h : isWhite c = false) (cs : List Char) :
    skipWhite (c :: cs) = c :: cs := by
  rw [skipWhite, List.dropWhile_cons_of_neg (by rw [h]; exact Bool.false_ne_true)]

/-- What is written for a value starts with no white space, and with no closing bracket. -/
theorem Textual.head {j : Json} (h : j.Textual) :
    ∃ c cs, j.dumpChars = c :: cs ∧ isWhite c = false ∧ c ≠ ']' := by
  cases h with
  | str s => exact ⟨'"', s.toList.flatMap dumpChar ++ ['"'], rfl, rfl, by decide⟩
  | list xs h => exact ⟨'[', dumpItems xs ++ [']'], by rw [dumpChars], rfl, by decide⟩
  | dict kvs hkeys h => exact ⟨'\x7b', dumpFields kvs ++ ['\x7d'], by rw [dumpChars], rfl, by decide⟩

section Values

variable [Python]

/-- A value that is read back, with any fuel from twice its length on. -/
def ReadBack (j : Json) : Prop :=
  ∀ fuel rest, 2 * j.dumpChars.length ≤ fuel → readValue fuel (j.dumpChars ++ rest) = some (j, rest)

theorem readItems_dumpItems {xs : List Json} (hxs : ∀ x ∈ xs, x.Textual ∧ x.ReadBack) (rest : List Char) :
    ∀ acc fuel, xs ≠ [] → 2 * (dumpItems xs).length + 1 ≤ fuel →
      readItems fuel acc (dumpItems xs ++ ']' :: rest) = some (.list (acc ++ xs), rest) := by
  induction xs with
  | nil => intro acc fuel hne; exact absurd rfl hne
  | cons x xs ih =>
    intro acc fuel _ hfuel
    obtain ⟨fuel, rfl⟩ : ∃ n, fuel = n + 1 := ⟨fuel - 1, by omega⟩
    rw [dumpItems] at hfuel ⊢
    rw [List.length_append, List.length_append] at hfuel
    rw [List.append_assoc, List.append_assoc, readItems, (hxs x List.mem_cons_self).2 _ _ (by omega)]
    simp only
    cases xs with
    | nil => rfl
    | cons y ys =>
      have htail := ih (fun x hx => hxs x (List.mem_cons_of_mem _ hx)) (acc ++ [x]) fuel
        (List.cons_ne_nil _ _) (by
          rw [show (List.isEmpty (y :: ys)) = false from rfl, if_neg Bool.false_ne_true,
            List.length_singleton] at hfuel
          omega)
      -- the next item starts right after the comma
      obtain ⟨c, cs, hc, hwhite, _⟩ := (hxs y (List.mem_cons_of_mem _ List.mem_cons_self)).1.head
      have hskip : skipWhite (dumpItems (y :: ys) ++ ']' :: rest) = dumpItems (y :: ys) ++ ']' :: rest := by
        rw [dumpItems, hc, List.cons_append, List.cons_append, skipWhite_cons hwhite]
      show readItems fuel (acc ++ [x]) (skipWhite (dumpItems (y :: ys) ++ ']' :: rest)) = _
      rw [hskip, htail, List.append_assoc]
      rfl

theorem readFields_dumpFields {kvs : List (String × Json)}
    (hkvs : ∀ kv ∈ kvs, kv.2.Textual ∧ kv.2.ReadBack) (rest : List Char) :
    ∀ acc fuel, kvs ≠ [] → ((acc ++ kvs).map Prod.fst).Nodup →
      2 * (dumpFields kvs).length + 1 ≤ fuel →
      readFields fuel acc (dumpFields kvs ++ '\x7d' :: rest) = some (.dict (acc ++ kvs), rest) := by
  induction kvs with
  | nil => intro acc fuel hne; exact absurd rfl hne
  | cons kv kvs ih =>
    intro acc fuel _ hnodup hfuel
    obtain ⟨k, v⟩ := kv
    obtain ⟨fuel, rfl⟩ : ∃ n, fuel = n + 1 := ⟨fuel - 1, by omega⟩
    -- the key is new, so that setting it appends the pair
    have hset : Dict.set acc k v = acc ++ [(k, v)] := by
      refine Dict.set_of_not_mem fun hmem => ?_
      rw [List.map_append, List.nodup_append] at hnodup
      exact hnodup.2.2 k hmem k List.mem_cons_self rfl
    obtain ⟨c, cs, hc, hwhite, _⟩ := (hkvs (k, v) List.mem_cons_self).1.head
    have hread := fun rest' => (hkvs (k, v) List.mem_cons_self).2 fuel rest' (by
      rw [dumpFields, List.length_append, List.length_cons, List.length_append] at hfuel
      show 2 * v.dumpChars.length ≤ fuel
      omega)
    have hkey := readText_dumpText k (':' :: (v.dumpChars ++
      ((if kvs.isEmpty then [] else [',']) ++ dumpFields kvs) ++ '\x7d' :: rest))
    rw [dumpFields, List.append_assoc, List.cons_append]
    show readFields (fuel + 1) acc ('"' :: (k.toList.flatMap dumpChar ++ ['"'] ++ _)) = _
    rw [readFields, hkey]
    simp only [String.ofList_toList]
    rw [skipWhite_cons (by rfl)]
    simp only
    rw [List.append_assoc, hc, List.cons_append, skipWhite_cons hwhite, ← List.cons_append, ← hc, hread]
    simp only
    cases kvs with
    | nil =>
      show some (Json.dict (Dict.set acc k v), rest) = _
      rw [hset]
    | cons kv' kvs =>
      have htail := ih (fun kv hkv => hkvs kv (List.mem_cons_of_mem _ hkv)) (acc ++ [(k, v)]) fuel
        (List.cons_ne_nil _ _) (by rwa [List.append_assoc]) (by
          rw [dumpFields, List.length_append, List.length_cons, List.length_append,
            List.length_append, show (List.isEmpty (kv' :: kvs)) = false from rfl,
            if_neg Bool.false_ne_true, List.length_singleton] at hfuel
          omega)
      show readFields fuel (Dict.set acc k v) (skipWhite (dumpFields (kv' :: kvs) ++ '\x7d' :: rest)) = _
      have hskip : skipWhite (dumpFields (kv' :: kvs) ++ '\x7d' :: rest) =
          dumpFields (kv' :: kvs) ++ '\x7d' :: rest := by
        rw [dumpFields]
        exact skipWhite_cons (c := '"') (by rfl) _
      rw [hset, hskip, htail, List.append_assoc]
      rfl

/-- **A value is read back.** -/
theorem Textual.readBack {j : Json} (h : j.Textual) : j.ReadBack := by
  induction h with
  | str s =>
    intro fuel rest hfuel
    obtain ⟨fuel, rfl⟩ : ∃ n, fuel = n + 1 := ⟨fuel - 1, by
      rw [dumpChars, dumpText, List.length_cons] at hfuel; omega⟩
    rw [dumpChars, dumpText, List.cons_append, readValue]
    simp only
    rw [readText_dumpText]
    show some (Json.str (String.ofList s.toList), rest) = _
    rw [String.ofList_toList]
  | list xs h ih =>
    intro fuel rest hfuel
    rw [dumpChars, List.length_cons, List.length_append, List.length_singleton] at hfuel
    obtain ⟨fuel, rfl⟩ : ∃ n, fuel = n + 1 := ⟨fuel - 1, by omega⟩
    rw [dumpChars, List.cons_append, List.append_assoc, List.singleton_append, readValue]
    cases xs with
    | nil => rfl
    | cons x xs =>
      obtain ⟨c, cs, hc, hwhite, hclose⟩ := (h x List.mem_cons_self).head
      have hitems := readItems_dumpItems (fun x hx => ⟨h x hx, ih x hx⟩) rest [] fuel
        (List.cons_ne_nil _ _) (by omega)
      rw [dumpItems, hc, List.cons_append, List.cons_append] at hitems ⊢
      rw [skipWhite_cons hwhite]
      split
      · rename_i heq; exact absurd (List.cons.inj heq).1 hclose
      · exact hitems
  | dict kvs hkeys h ih =>
    intro fuel rest hfuel
    rw [dumpChars, List.length_cons, List.length_append, List.length_singleton] at hfuel
    obtain ⟨fuel, rfl⟩ : ∃ n, fuel = n + 1 := ⟨fuel - 1, by omega⟩
    rw [dumpChars, List.cons_append, List.append_assoc, List.singleton_append, readValue]
    cases kvs with
    | nil => rfl
    | cons kv kvs =>
      have hfields := readFields_dumpFields (fun kv hkv => ⟨h kv hkv, ih kv hkv⟩) rest [] fuel
        (List.cons_ne_nil _ _) hkeys (by omega)
      rw [dumpFields] at hfields ⊢
      exact hfields

/-- **Round trip.** -/
theorem loads_dumps {j : Json} (h : j.Textual) : loads j.dumps = some j := by
  obtain ⟨c, cs, hc, hwhite, _⟩ := h.head
  have hread := h.readBack (2 * j.dumpChars.length + 1) [] (by omega)
  rw [List.append_nil] at hread
  have hbom : j.dumpChars.head? ≠ some (Char.ofNat 0xfeff) := by
    cases h <;> rw [dumpChars] <;> exact fun hhead => absurd (Option.some.inj hhead) (by decide)
  unfold loads dumps
  rw [String.toList_ofList]
  simp only
  rw [if_neg hbom, hc, skipWhite_cons hwhite, ← hc, hread]
  rfl

end Values

end Json

end Py
