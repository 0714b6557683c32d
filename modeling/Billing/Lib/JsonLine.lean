/-
  JSON on a line: `json.dumps(d, ensure_ascii=False)` of a dictionary of texts.

  Characters outside ASCII are written as they are, control characters are not, so that no line feed
  stands in what is written, whatever the dictionary holds (`printable_writeDict`); and it is read back
  (`loads_writeDict`).  A stream of such texts, each ended with a line feed, falls apart into them again
  (`fileLines_stream`).
-/
import Billing.Lib.JsonText
import Billing.Lib.PyLines

namespace Py

namespace Json

/-! ## Writing -/

/-- One character of a text: what has to be escaped is, everything else stays. -/
def writeChar (c : Char) : List Char :=
  if c = '"' ∨ c = '\\' ∨ c.toNat < 32 then dumpChar c else [c]

/-- A text after its opening quote. -/
def writeBody (s : String) : List Char := s.toList.flatMap writeChar ++ ['"']

/-- The fields of a dictionary, with the separators `", "` and `": "`. -/
def writeFields : Dict String → List Char
  | [] => []
  | (k, v) :: rest =>
    '"' :: (writeBody k ++ ':' :: ' ' :: '"' :: (writeBody v ++
      ((if rest.isEmpty then [] else [',', ' ']) ++ writeFields rest)))

/-- `json.dumps(d, ensure_ascii=False)`. -/
def writeDict (d : Dict String) : String := String.ofList ('\x7b' :: (writeFields d ++ ['\x7d']))

/-- A dictionary of texts as a value. -/
def ofTexts (d : Dict String) : Json := .dict (d.map fun (k, v) => (k, .str v))

theorem get?_ofTexts (d : Dict String) (key : String) :
    Dict.get? (d.map fun (k, v) => (k, Json.str v)) key = (d.get? key).map .str := by
  induction d with
  | nil => rfl
  | cons kv d ih =>
    obtain ⟨k, v⟩ := kv
    rw [List.map_cons, Dict.get?, Dict.get?]
    split
    · rfl
    · exact ih

example : (writeDict [("a", "é\n"), ("b", "\"")]).toList = "\x7b\"a\": \"é\\n\", \"b\": \"\\\"\"\x7d".toList := by
  decide

/-! ## One line -/

/-- What is escaped is printable. -/
theorem printable_dumpChar {c d : Char} (h : d ∈ dumpChar c) : 32 ≤ d.toNat := by
  refine (printable_dumpText (String.ofList [c]) d ?_).1
  rw [dumpText, String.toList_ofList, List.flatMap_singleton]
  exact List.mem_cons_of_mem _ (List.mem_append_left _ h)

theorem printable_writeChar {c d : Char} (h : d ∈ writeChar c) : 32 ≤ d.toNat := by
  unfold writeChar at h
  split at h
  · exact printable_dumpChar h
  · rename_i hplain
    rw [List.mem_singleton.mp h]
    omega

theorem printable_writeBody {s : String} {d : Char} (h : d ∈ writeBody s) : 32 ≤ d.toNat := by
  rcases List.mem_append.mp h with h | h
  · obtain ⟨c, -, hd⟩ := List.mem_flatMap.mp h
    exact printable_writeChar hd
  · rw [List.mem_singleton.mp h]
    decide

/-- **No control character is written**, so no line feed is. -/
theorem printable_writeDict {d : Dict String} {c : Char} (h : c ∈ (writeDict d).toList) :
    32 ≤ c.toNat := by
  have hfields : ∀ d : Dict String, ∀ c ∈ writeFields d, 32 ≤ c.toNat := by
    intro d
    induction d with
    | nil => exact fun c hc => absurd hc List.not_mem_nil
    | cons kv rest ih =>
      obtain ⟨k, v⟩ := kv
      intro c hc
      have hseparator : ∀ c ∈ (if rest.isEmpty then [] else [',', ' '] : List Char), 32 ≤ c.toNat := by
        intro c hc
        split at hc
        · exact absurd hc List.not_mem_nil
        · rw [List.mem_cons, List.mem_singleton] at hc
          rcases hc with rfl | rfl
          · decide
          · decide
      simp only [writeFields, List.mem_cons, List.mem_append] at hc
      rcases hc with rfl | hc | rfl | rfl | rfl | hc | hc | hc
      · decide
      · exact printable_writeBody hc
      · decide
      · decide
      · decide
      · exact printable_writeBody hc
      · exact hseparator c hc
      · exact ih c hc
  rw [writeDict, String.toList_ofList] at h
  rcases List.mem_cons.mp h with rfl | h
  · decide
  rcases List.mem_append.mp h with h | h
  · exact hfields d c h
  · rw [List.mem_singleton.mp h]
    decide

/-! ## Reading it back -/

theorem readChar_writeChar (c : Char) (rest : List Char) :
    readChar (writeChar c ++ rest) = some (c, rest) := by
  unfold writeChar
  split
  · exact readChar_dumpChar c rest
  · rename_i hplain
    rw [not_or, not_or] at hplain
    show readChar (c :: rest) = _
    rw [readChar.eq_def]
    split
    · rename_i heq; exact absurd (List.cons.inj heq).1 hplain.2.1
    · rename_i heq
      obtain ⟨rfl, rfl⟩ := List.cons.inj heq
      rw [if_neg hplain.2.2]
    · rename_i heq; cases heq

theorem writeChar_head (c : Char) : ∃ d ds, writeChar c = d :: ds ∧ d ≠ '"' := by
  unfold writeChar
  split
  · exact dumpChar_head c
  · rename_i hplain
    exact ⟨c, [], rfl, fun h => hplain (Or.inl h)⟩

theorem readText_writeBody (s : String) (rest : List Char) :
    readText ((writeBody s ++ rest).length + 1) (writeBody s ++ rest) = some (s.toList, rest) := by
  have hlen := length_le_written writeChar_head s.toList
  unfold writeBody
  rw [List.append_assoc, List.singleton_append]
  refine readText_written writeChar_head readChar_writeChar s.toList rest _ ?_
  rw [List.length_append]
  omega

theorem length_le_writeFields (d : Dict String) : d.length ≤ (writeFields d).length := by
  induction d with
  | nil => exact Nat.le_refl _
  | cons kv rest ih =>
    obtain ⟨k, v⟩ := kv
    simp only [writeFields, List.length_cons, List.length_append]
    omega

section Values

variable [Python]

theorem readValue_writeBody (fuel : Nat) (s : String) (rest : List Char) :
    readValue (fuel + 1) ('"' :: (writeBody s ++ rest)) = some (.str s, rest) := by
  rw [readValue]
  simp only
  rw [readText_writeBody]
  show some (Json.str (String.ofList s.toList), rest) = _
  rw [String.ofList_toList]

/-- The fields are read into the dictionary one after the other. -/
theorem readFields_writeFields {d : Dict String} (rest : List Char) :
    ∀ (acc : Dict Json) (fuel : Nat), d ≠ [] → ((acc.map Prod.fst) ++ d.map Prod.fst).Nodup →
      d.length < fuel → readFields fuel acc (writeFields d ++ '\x7d' :: rest) =
        some (.dict (acc ++ d.map fun (k, v) => (k, .str v)), rest) := by
  induction d with
  | nil => intro acc fuel hne; exact absurd rfl hne
  | cons kv d ih =>
    obtain ⟨k, v⟩ := kv
    intro acc fuel _ hnodup hfuel
    obtain ⟨fuel, rfl⟩ : ∃ n, fuel = n + 2 := ⟨fuel - 2, by rw [List.length_cons] at hfuel; omega⟩
    -- the key is new, so that setting it appends the pair
    have hset : Dict.set acc k (.str v) = acc ++ [(k, .str v)] := by
      refine Dict.set_of_not_mem fun hmem => ?_
      rw [List.nodup_append] at hnodup
      exact hnodup.2.2 k hmem k List.mem_cons_self rfl
    have hwhite : ∀ cs, skipWhite ('"' :: cs) = '"' :: cs := fun cs => skipWhite_cons (by rfl) cs
    have hshape : writeFields ((k, v) :: d) ++ '\x7d' :: rest =
        '"' :: (writeBody k ++ (':' :: ' ' :: '"' :: (writeBody v ++
          ((if d.isEmpty then [] else [',', ' ']) ++ writeFields d ++ '\x7d' :: rest)))) := by
      rw [writeFields]
      simp only [List.cons_append, List.append_assoc]
    rw [hshape, readFields]
    simp only
    rw [readText_writeBody]
    simp only [String.ofList_toList]
    rw [skipWhite_cons (by rfl)]
    simp only
    have hgap : ∀ cs, skipWhite (' ' :: '"' :: cs) = '"' :: cs := fun cs => hwhite cs
    rw [hgap, readValue_writeBody]
    simp only
    cases d with
    | nil =>
      show some (Json.dict (Dict.set acc k (.str v)), rest) = _
      rw [hset]
      rfl
    | cons kv' d =>
      have hnodup' : ((acc ++ [(k, Json.str v)]).map Prod.fst ++ (kv' :: d).map Prod.fst).Nodup := by
        rw [List.map_append, List.append_assoc]
        exact hnodup
      have htail := ih (acc ++ [(k, .str v)]) (fuel + 1) (List.cons_ne_nil _ _) hnodup'
        (by rw [List.length_cons] at hfuel ⊢; rw [List.length_cons] at hfuel; omega)
      have hskip : skipWhite (' ' :: (writeFields (kv' :: d) ++ '\x7d' :: rest)) =
          writeFields (kv' :: d) ++ '\x7d' :: rest := by
        rw [writeFields]
        exact hwhite _
      show readFields (fuel + 1) (Dict.set acc k (.str v))
        (skipWhite (' ' :: (writeFields (kv' :: d) ++ '\x7d' :: rest))) = _
      rw [hset, hskip, htail, List.append_assoc]
      rfl

/-- **A dictionary is read back**, whatever its texts are. -/
theorem loads_writeDict {d : Dict String} (hnodup : (d.map Prod.fst).Nodup) :
    loads (writeDict d) = some (ofTexts d) := by
  have hread : ∀ fuel, d.length < fuel → readValue (fuel + 1) ('\x7b' :: (writeFields d ++ ['\x7d'])) =
      some (ofTexts d, []) := by
    intro fuel hfuel
    rw [readValue]
    cases d with
    | nil => rfl
    | cons kv d =>
      have hfields := readFields_writeFields [] [] fuel (List.cons_ne_nil _ _) hnodup hfuel
      obtain ⟨tail, htail⟩ : ∃ tail, writeFields (kv :: d) ++ ['\x7d'] = '"' :: tail :=
        ⟨_, by rw [writeFields, List.cons_append]⟩
      rw [htail] at hfields ⊢
      rw [skipWhite_cons (by rfl)]
      exact hfields
  have hlen := length_le_writeFields d
  have hbrace : skipWhite ('\x7b' :: (writeFields d ++ ['\x7d'])) =
      '\x7b' :: (writeFields d ++ ['\x7d']) := skipWhite_cons (by rfl) _
  have hmark : ('\x7b' :: (writeFields d ++ ['\x7d'])).head? ≠ some (Char.ofNat 0xfeff) :=
    fun h => absurd (Option.some.inj h) (by decide)
  have hfuel : d.length < 2 * ('\x7b' :: (writeFields d ++ ['\x7d'])).length := by
    rw [List.length_cons, List.length_append]
    omega
  unfold loads writeDict
  rw [String.toList_ofList]
  simp only
  rw [if_neg hmark, hbrace, hread _ hfuel]
  rfl

end Values

end Json

/-! ## A stream of lines -/

/-- The lines of a text file, as going through it gives them. -/
def fileLines (cs : List Char) : List (List Char) := ((universalNewlines cs).splitOn '\n').dropLast

/-- **A stream falls apart into what was written to it.** -/
theorem fileLines_stream {lines : List (List Char)} (h : ∀ line ∈ lines, ∀ c ∈ line, 32 ≤ c.toNat) :
    fileLines (lines.flatMap fun line => line ++ ['\n']) = lines := by
  have hcontrol : ∀ c : Char, c.toNat < 32 → ∀ line ∈ lines, c ∉ line := by
    intro c hc line hline hmem
    have hprintable := h line hline c hmem
    omega
  have hsplit : (lines.flatMap fun line => line ++ ['\n']).splitOn '\n' = lines ++ [[]] := by
    have hfeed := hcontrol '\n' (by decide)
    clear h hcontrol
    induction lines with
    | nil => rfl
    | cons line lines ih =>
      rw [List.flatMap_cons, List.append_assoc, List.singleton_append,
        List.splitOn_append_cons_self_of_not_mem (hfeed line List.mem_cons_self),
        ih fun line hline => hfeed line (List.mem_cons_of_mem _ hline)]
      rfl
  have hreturn : '\r' ∉ lines.flatMap fun line => line ++ ['\n'] := by
    intro hmem
    obtain ⟨line, hline, hmem⟩ := List.mem_flatMap.mp hmem
    rcases List.mem_append.mp hmem with hmem | hmem
    · exact hcontrol '\r' (by decide) line hline hmem
    · exact absurd (List.mem_singleton.mp hmem) (by decide)
  unfold fileLines
  rw [universalNewlines_eq_self hreturn, hsplit, List.dropLast_concat]

end Py
