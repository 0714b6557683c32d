/-
  The lines of a text, as Python reads and writes them.

  A text file is read with universal newlines, so that no carriage return is left in it, and is then
  cut with `str.splitlines`, which knows ten line breaks.

  **Round trip** (`splitLines_joinLines`): lines without a line break, each ended with `\n`, are the
  lines that are read again.
-/
import Billing.Lib.PyText

namespace Py

/-- The characters that end a line. -/
def isLineBreak (c : Char) : Bool :=
  let n := c.toNat
  (10 ≤ n && n ≤ 13) || (28 ≤ n && n ≤ 30) || n == 0x85 || n == 0x2028 || n == 0x2029

/-- What a file opened as text reads: every `\r\n` and every `\r` is a `\n`. -/
def universalNewlines : List Char → List Char
  | [] => []
  | '\r' :: '\n' :: cs => '\n' :: universalNewlines cs
  | c :: cs => (if c = '\r' then '\n' else c) :: universalNewlines cs

/-- `str.splitlines`. -/
def splitLines : List Char → List (List Char)
  | [] => []
  | '\r' :: '\n' :: cs => [] :: splitLines cs
  | c :: cs =>
    if isLineBreak c then [] :: splitLines cs
    else
      match splitLines cs with
      | [] => [[c]]
      | line :: lines => (c :: line) :: lines

/-- The lines of a text file. -/
def linesOf (text : String) : List String :=
  (splitLines (universalNewlines text.toList)).map String.ofList

/-- `"\n".join(lines) + "\n"`. -/
def joinLines (lines : List String) : String := "\n".intercalate lines ++ "\n"

example : linesOf "a\r\nb\r\rc\u2028\n" = ["a", "b", "", "c", ""] := by decide

/-! ## What is in a line -/

/-- A line break is white space. -/
theorem isLineBreak_of_not_isSpace {c : Char} (h : isSpace c = false) : isLineBreak c = false := by
  simp only [isSpace, isLineBreak, Bool.or_eq_false_iff, Bool.and_eq_false_iff,
    decide_eq_false_iff_not, beq_eq_false_iff_ne] at h ⊢
  omega

/-- The text has no line break. -/
def OneLine (cs : List Char) : Prop := ∀ c ∈ cs, isLineBreak c = false

instance (cs : List Char) : Decidable (OneLine cs) :=
  List.decidableBAll (fun c => isLineBreak c = false) cs

theorem OneLine.of_sublist {cs ds : List Char} (h : OneLine cs) (hsub : ds.Sublist cs) : OneLine ds :=
  fun c hc => h c (hsub.subset hc)

theorem oneLine_append {cs ds : List Char} : OneLine (cs ++ ds) ↔ OneLine cs ∧ OneLine ds :=
  List.forall_mem_append

/-- No line has a line break. -/
theorem oneLine_of_mem_splitLines {cs line : List Char} (h : line ∈ splitLines cs) : OneLine line := by
  induction cs using splitLines.induct generalizing line with
  | case1 => cases h
  | case2 cs ih =>
    rw [splitLines] at h
    rcases List.mem_cons.mp h with rfl | h
    · exact fun c hc => absurd hc List.not_mem_nil
    · exact ih h
  | case3 c cs hcrlf hbreak ih =>
    rw [splitLines, if_pos hbreak] at h
    · rcases List.mem_cons.mp h with rfl | h
      · exact fun c hc => absurd hc List.not_mem_nil
      · exact ih h
    · exact hcrlf
  | case4 c cs hcrlf hbreak hnil ih =>
    rw [splitLines, if_neg hbreak, hnil] at h
    · rw [List.mem_singleton.mp h]
      intro d hd
      rw [List.mem_singleton.mp hd]
      exact Bool.eq_false_iff.mpr hbreak
    · exact hcrlf
  | case5 c cs hcrlf hbreak first rest hlines ih =>
    rw [splitLines, if_neg hbreak, hlines] at h
    · rcases List.mem_cons.mp h with rfl | h
      · intro d hd
        rcases List.mem_cons.mp hd with rfl | hd
        · exact Bool.eq_false_iff.mpr hbreak
        · exact ih (hlines ▸ List.mem_cons_self) d hd
      · exact ih (hlines ▸ List.mem_cons_of_mem _ h)
    · exact hcrlf

theorem oneLine_of_mem_linesOf {text line : String} (h : line ∈ linesOf text) :
    OneLine line.toList := by
  obtain ⟨cs, hcs, rfl⟩ := List.mem_map.mp h
  rw [String.toList_ofList]
  exact oneLine_of_mem_splitLines hcs

/-! ## Reading what was written -/

/-- A line that was ended. -/
theorem splitLines_append {line : List Char} (h : OneLine line) (rest : List Char) :
    splitLines (line ++ '\n' :: rest) = line :: splitLines rest := by
  induction line with
  | nil =>
    show splitLines ('\n' :: rest) = _
    rw [splitLines]
    · exact if_pos rfl
    · intro cs hcr
      cases hcr
  | cons c line ih =>
    have hc : isLineBreak c = false := h c List.mem_cons_self
    rw [List.cons_append, splitLines, if_neg (by rw [hc]; exact Bool.false_ne_true),
      ih fun d hd => h d (List.mem_cons_of_mem _ hd)]
    intro cs hcr
    rw [hcr] at hc
    cases hc

/-- A text without a carriage return is read as it is. -/
theorem universalNewlines_eq_self {cs : List Char} (h : '\r' ∉ cs) : universalNewlines cs = cs := by
  induction cs with
  | nil => rfl
  | cons c cs ih =>
    rw [List.mem_cons, not_or] at h
    rw [universalNewlines, if_neg (Ne.symm h.1), ih h.2]
    intro rest hcr
    exact absurd hcr.symm h.1

theorem toList_joinLines {lines : List String} (h : lines ≠ []) :
    (joinLines lines).toList = lines.flatMap fun line => line.toList ++ ['\n'] := by
  unfold joinLines
  rw [String.toList_append]
  induction lines with
  | nil => exact absurd rfl h
  | cons line rest ih =>
    cases rest with
    | nil =>
      rw [String.intercalate_singleton, List.flatMap_cons, List.flatMap_nil, List.append_nil]
      rfl
    | cons next rest =>
      rw [String.intercalate_cons_cons, String.toList_append, String.toList_append,
        List.append_assoc, List.append_assoc, ih (List.cons_ne_nil _ _)]
      show _ = (line.toList ++ ['\n']) ++ (next :: rest).flatMap _
      rw [List.append_assoc]
      rfl

/-- **Round trip.** -/
theorem linesOf_joinLines {lines : List String} (hne : lines ≠ [])
    (h : ∀ line ∈ lines, OneLine line.toList) : linesOf (joinLines lines) = lines := by
  have hread : splitLines (lines.flatMap fun line => line.toList ++ ['\n']) =
      lines.map String.toList := by
    clear hne
    induction lines with
    | nil => rfl
    | cons line rest ih =>
      rw [List.flatMap_cons, List.append_assoc, List.singleton_append,
        splitLines_append (h line List.mem_cons_self), List.map_cons,
        ih fun line hline => h line (List.mem_cons_of_mem _ hline)]
  have hcr : '\r' ∉ lines.flatMap fun line => line.toList ++ ['\n'] := by
    intro hmem
    obtain ⟨line, hline, hmem⟩ := List.mem_flatMap.mp hmem
    rcases List.mem_append.mp hmem with hmem | hmem
    · have hbreak := h line hline '\r' hmem
      cases hbreak
    · exact absurd (List.mem_singleton.mp hmem) (by decide)
  unfold linesOf
  rw [toList_joinLines hne, universalNewlines_eq_self hcr, hread, List.map_map]
  exact List.map_congr_left (fun line _ => String.ofList_toList) |>.trans (List.map_id lines)

end Py
