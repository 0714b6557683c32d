/-
  Writing an env file and reading it again.

  A line of the file is a raw line or has a key, and rewriting puts `key=value` in the place of the
  latter.  That line is read back with this key and this value when the value is stripped and has no
  line break (`ValueText`); the key needs the same, no `=` and no `#` in front (`KeyText`), and a key
  that was read has all of it.

  **Round trip** (`load_rewritten`): the lines, the entries and the values of a rewritten file.
-/
import Billing.Deploy.EnvFile

namespace Billing

open Py

/-! ## One line -/

/-- A key that can be read back. -/
structure KeyText (key : String) : Prop where
  stripped : strip key = key
  noEquals : '=' ∉ key.toList
  noComment : key.toList.head? ≠ some '#'
  oneLine : OneLine key.toList

/-- A value that can be read back. -/
structure ValueText (value : String) : Prop where
  stripped : strip value = value
  oneLine : OneLine value.toList

theorem startsWith_comment_iff {text : String} :
    startsWith text "#" = true ↔ text.toList.head? = some '#' := by
  unfold startsWith
  rw [List.isPrefixOf_iff_prefix]
  cases text.toList with
  | nil => exact ⟨fun h => absurd h.length_le (by decide), fun h => (by cases h)⟩
  | cons c cs =>
    rw [List.head?_cons, Option.some.injEq]
    constructor
    · intro h
      exact (List.cons_prefix_cons.mp h).1.symm
    · rintro rfl
      exact ⟨cs, rfl⟩

theorem toList_strip (text : String) : (strip text).toList = stripChars text.toList := by
  rw [strip, String.toList_ofList]

theorem oneLine_strip {cs : List Char} (h : OneLine cs) : OneLine (strip (String.ofList cs)).toList := by
  rw [toList_strip, String.toList_ofList]
  exact h.of_sublist (stripChars_sublist cs)

/-- **A key and a value that were read can be read back.** -/
theorem texts_of_keyValueOf {line key value : String} (h : keyValueOf line = some (key, value))
    (hline : OneLine line.toList) : KeyText key ∧ ValueText value := by
  unfold keyValueOf at h
  simp only at h
  split at h
  · cases h
  · rename_i hkv
    rw [not_or, not_or, not_not] at hkv
    obtain ⟨hnonblank, hcomment, hequals⟩ := hkv
    obtain ⟨before, after, hsplit, hnot, hpartition⟩ := partition_of_mem hequals
    rw [hpartition] at h
    obtain ⟨rfl, rfl⟩ := Prod.mk.inj (Option.some.inj h)
    rw [hsplit, oneLine_append] at hline
    have hafter : OneLine after := fun c hc => hline.2 c (List.mem_cons_of_mem _ hc)
    refine ⟨⟨strip_strip _, ?_, ?_, oneLine_strip hline.1⟩, ⟨strip_strip _, oneLine_strip hafter⟩⟩
    · rw [toList_strip, String.toList_ofList]
      exact fun hmem => hnot ((stripChars_sublist before).subset hmem)
    · -- what the key begins with, the line begins with
      intro hhead
      rw [toList_strip, String.toList_ofList, head?_stripChars] at hhead
      rw [startsWith_comment_iff, toList_strip, head?_stripChars, hsplit] at hcomment
      refine hcomment ?_
      have hne : before.dropWhile isSpace ≠ [] := by
        intro hnil
        rw [hnil] at hhead
        cases hhead
      rw [List.dropWhile_append, List.isEmpty_eq_false_iff.mpr hne, if_neg Bool.false_ne_true,
        List.head?_append_of_ne_nil _ hne, hhead]

/-- **A written line is read back.** -/
theorem keyValueOf_written {key value : String} (hkey : KeyText key) (hvalue : ValueText value) :
    keyValueOf (key ++ "=" ++ value) = some (key, value) := by
  have hchars : (key ++ "=" ++ value).toList = key.toList ++ '=' :: value.toList := by
    rw [String.toList_append, String.toList_append, List.append_assoc]
    rfl
  have hequals : '=' ∈ (key ++ "=" ++ value).toList := by
    rw [hchars]
    exact List.mem_append_right _ List.mem_cons_self
  have hnonblank : strip (key ++ "=" ++ value) ≠ "" := by
    intro hblank
    have hmem := (mem_stripChars_iff (by decide : isSpace '=' = false) _).mpr hequals
    rw [← toList_strip, hblank] at hmem
    cases hmem
  have hcomment : ¬ startsWith (strip (key ++ "=" ++ value)) "#" = true := by
    rw [startsWith_comment_iff, toList_strip, head?_stripChars, hchars]
    have hstripped : stripChars key.toList = key.toList := by
      rw [← toList_strip, hkey.stripped]
    cases hcs : key.toList with
    | nil => exact fun h => absurd (Option.some.inj h) (by decide)
    | cons c cs =>
      have hc : ¬ isSpace c = true := by
        rw [stripChars_eq_self_iff, hcs] at hstripped
        rw [hstripped.1 c rfl]
        exact Bool.false_ne_true
      have hnot := hkey.noComment
      rw [hcs, List.head?_cons] at hnot
      rwa [List.cons_append, List.dropWhile_cons_of_neg hc, List.head?_cons]
  have hkv : ¬ (strip (key ++ "=" ++ value) = "" ∨ startsWith (strip (key ++ "=" ++ value)) "#" = true ∨
      '=' ∉ (key ++ "=" ++ value).toList) := by
    rintro (h | h | h)
    · exact hnonblank h
    · exact hcomment h
    · exact h hequals
  unfold keyValueOf
  simp only
  rw [if_neg hkv, hchars, partition_append hkey.noEquals]
  simp only [Option.getD_some, String.ofList_toList, hkey.stripped, hvalue.stripped]

/-! ## The whole file -/

/-- The keys and the values of a file, line by line. -/
def pairsOf (text : String) : Dict String := (linesOf text).filterMap keyValueOf

/-- The entry of a line. -/
def entryOf (line : String) : EnvEntry :=
  match keyValueOf line with
  | none => .raw line
  | some (key, _) => .kv key

/-- The line that stands in the place of another one: a line without a key stays. -/
def rewritten (values : Dict String) (line : String) : String :=
  match keyValueOf line with
  | none => line
  | some (key, _) => key ++ "=" ++ (values.get? key).getD ""

/-- A line without a key stays. -/
theorem rewritten_raw (values : Dict String) {line : String}
    (h : strip line = "" ∨ startsWith (strip line) "#" = true ∨ '=' ∉ line.toList) :
    rewritten values line = line := by
  have hnone : keyValueOf line = none := by
    unfold keyValueOf
    exact if_pos h
  unfold rewritten
  rw [hnone]

theorem entryLine_entryOf (values : Dict String) (line : String) :
    entryLine values (entryOf line) = rewritten values line := by
  unfold entryOf rewritten
  cases keyValueOf line with
  | none => rfl
  | some kv => rfl

/-- **What the loop of `load_env_file` gathers.** -/
theorem loadEnvFile_eq (envPath text : String) :
    loadEnvFile envPath (some text) =
      .ok ((linesOf text).map entryOf, Dict.update [] (pairsOf text)) := by
  have hloop : ∀ (lines : List String) (entries : List EnvEntry) (values : Dict String),
      lines.foldl loadLine (entries, values) =
        (entries ++ lines.map entryOf, values.update (lines.filterMap keyValueOf)) := by
    intro lines
    induction lines with
    | nil => intro entries values; rw [List.map_nil, List.append_nil]; rfl
    | cons line lines ih =>
      intro entries values
      rw [List.foldl_cons, List.map_cons, List.filterMap_cons]
      cases hkv : keyValueOf line with
      | none =>
        have hline : loadLine (entries, values) line = (entries ++ [.raw line], values) := by
          simp only [loadLine, hkv]
        have hentry : entryOf line = .raw line := by simp only [entryOf, hkv]
        rw [hline, ih, hentry, List.append_assoc]
        rfl
      | some kv =>
        have hline : loadLine (entries, values) line =
            (entries ++ [.kv kv.1], values.set kv.1 kv.2) := by simp only [loadLine, hkv]
        have hentry : entryOf line = .kv kv.1 := by simp only [entryOf, hkv]
        rw [hline, ih, hentry, List.append_assoc]
        rfl
  show Except.ok ((linesOf text).foldl loadLine ([], [])) = _
  rw [hloop, List.nil_append]
  rfl

/-- Both readers find the same values. -/
theorem parseEnvFile_eq (text : String) : parseEnvFile text = Dict.update [] (pairsOf text) := by
  unfold parseEnvFile pairsOf
  generalize linesOf text = lines
  generalize ([] : Dict String) = values
  induction lines generalizing values with
  | nil => rfl
  | cons line lines ih =>
    rw [List.foldl_cons, List.filterMap_cons, ih]
    cases keyValueOf line with
    | none => rfl
    | some kv => rfl

/-! ## A rewritten file -/

section Rewritten

variable {text : String} {values : Dict String}

/-- Every key of the file has a value that can be read back. -/
def Writable (text : String) (values : Dict String) : Prop :=
  ∀ kv ∈ pairsOf text, ValueText ((values.get? kv.1).getD "")

theorem keyText_of_mem_pairsOf {kv : String × String} (h : kv ∈ pairsOf text) :
    KeyText kv.1 ∧ ValueText kv.2 := by
  obtain ⟨line, hline, hkv⟩ := List.mem_filterMap.mp h
  exact texts_of_keyValueOf hkv (oneLine_of_mem_linesOf hline)

theorem keyValueOf_rewritten (hvalues : Writable text values) {line : String}
    (hline : line ∈ linesOf text) : keyValueOf (rewritten values line) =
      (keyValueOf line).map fun kv => (kv.1, (values.get? kv.1).getD "") := by
  unfold rewritten
  cases hkv : keyValueOf line with
  | none => exact hkv
  | some kv =>
    have hmem : kv ∈ pairsOf text := List.mem_filterMap.mpr ⟨line, hline, hkv⟩
    exact keyValueOf_written (keyText_of_mem_pairsOf hmem).1 (hvalues kv hmem)

/-- A key of the file keeps its entry. -/
theorem entryOf_rewritten (hvalues : Writable text values) {line : String}
    (hline : line ∈ linesOf text) : entryOf (rewritten values line) = entryOf line := by
  have hread := keyValueOf_rewritten hvalues hline
  unfold entryOf
  rw [hread]
  unfold rewritten
  cases keyValueOf line with
  | none => rfl
  | some kv => rfl

theorem oneLine_rewritten (hvalues : Writable text values) {line : String}
    (hline : line ∈ linesOf text) : OneLine (rewritten values line).toList := by
  unfold rewritten
  cases hkv : keyValueOf line with
  | none => exact oneLine_of_mem_linesOf hline
  | some kv =>
    have hmem : kv ∈ pairsOf text := List.mem_filterMap.mpr ⟨line, hline, hkv⟩
    show OneLine (kv.1 ++ "=" ++ _).toList
    rw [String.toList_append, String.toList_append, oneLine_append, oneLine_append]
    exact ⟨⟨(keyText_of_mem_pairsOf hmem).1.oneLine, by decide⟩, (hvalues kv hmem).oneLine⟩

/-- The lines of the rewritten file. -/
theorem linesOf_rewritten (hvalues : Writable text values) (hne : linesOf text ≠ []) :
    linesOf (rewriteEnvFile ((linesOf text).map entryOf) values) =
      (linesOf text).map (rewritten values) := by
  have hlines : ((linesOf text).map entryOf).map (entryLine values) =
      (linesOf text).map (rewritten values) := by
    rw [List.map_map]
    refine List.map_congr_left fun line _ => ?_
    rw [Function.comp_apply]
    exact entryLine_entryOf values line
  unfold rewriteEnvFile
  rw [hlines]
  refine linesOf_joinLines (fun hnil => hne (List.map_eq_nil_iff.mp hnil)) fun line hline => ?_
  obtain ⟨old, hold, rfl⟩ := List.mem_map.mp hline
  exact oneLine_rewritten hvalues hold

/-- The keys of the rewritten file and their values. -/
theorem pairsOf_rewritten (hvalues : Writable text values) (hne : linesOf text ≠ []) :
    pairsOf (rewriteEnvFile ((linesOf text).map entryOf) values) =
      (pairsOf text).map fun kv => (kv.1, (values.get? kv.1).getD "") := by
  unfold pairsOf
  rw [linesOf_rewritten hvalues hne, List.filterMap_map, List.map_filterMap]
  refine List.filterMap_congr fun line hline => ?_
  rw [Function.comp_apply]
  exact keyValueOf_rewritten hvalues hline

/-- What is read of a rewritten file. -/
def rereadOf (text : String) (values : Dict String) : Dict String :=
  Dict.update [] ((pairsOf text).map fun kv => (kv.1, (values.get? kv.1).getD ""))

/-- **Round trip**: the entries stay, and each key has its value. -/
theorem load_rewritten (envPath : String) (hvalues : Writable text values) (hne : linesOf text ≠ []) :
    loadEnvFile envPath (some (rewriteEnvFile ((linesOf text).map entryOf) values)) =
      .ok ((linesOf text).map entryOf, rereadOf text values) := by
  have hentries : ((linesOf text).map (rewritten values)).map entryOf = (linesOf text).map entryOf := by
    rw [List.map_map]
    refine List.map_congr_left fun line hline => ?_
    rw [Function.comp_apply]
    exact entryOf_rewritten hvalues hline
  rw [loadEnvFile_eq, pairsOf_rewritten hvalues hne, linesOf_rewritten hvalues hne, hentries]
  rfl

/-- The last occurrence of a key wins. -/
theorem get?_update_pairsOf (text key : String) :
    Dict.get? (Dict.update [] (pairsOf text)) key = Dict.get? (pairsOf text).reverse key := by
  rw [Dict.get?_update]
  exact Option.or_none

/-- The rewritten file has the keys of the file, in their order. -/
theorem keys_rereadOf (text : String) (values : Dict String) :
    (rereadOf text values).map Prod.fst = (Dict.update [] (pairsOf text)).map Prod.fst := by
  refine Dict.keys_update_congr rfl ?_
  rw [List.map_map]
  rfl

theorem get?_rereadOf {key : String} (hkey : key ∈ (Dict.update [] (pairsOf text)).map Prod.fst) :
    (rereadOf text values).get? key = some ((values.get? key).getD "") := by
  have hfile : key ∈ (pairsOf text).reverse.map Prod.fst := by
    rw [Dict.mem_keys_iff, get?_update_pairsOf] at hkey
    exact Dict.mem_keys_iff.mpr hkey
  have hpairs := Dict.get?_map_keys (pairsOf text).reverse (fun key => (values.get? key).getD "") key
  rw [if_pos hfile, List.map_reverse] at hpairs
  unfold rereadOf
  rw [Dict.get?_update, hpairs]
  rfl

/-- What was read can be read back. -/
theorem valueText_of_mem_update : ∀ kv ∈ Dict.update [] (pairsOf text), ValueText kv.2 := by
  intro kv hkv
  have hmem : kv ∈ pairsOf text := (Dict.mem_update hkv).resolve_left List.not_mem_nil
  exact (keyText_of_mem_pairsOf hmem).2

/-- A key that has no value is written with an empty one. -/
theorem writable_of_readable (h : ∀ kv ∈ values, ValueText kv.2) : Writable text values := by
  intro kv _
  cases hget : values.get? kv.1 with
  | none => exact ⟨by decide, by decide⟩
  | some value => exact h _ (Dict.mem_of_get? hget)

end Rewritten

end Billing
