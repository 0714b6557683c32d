/-
  A section of Python's `configparser.ConfigParser`, with its basic interpolation.

  A `%` in a value is an escape: `%%` stands for one `%` and `%(name)s` for the value of another option.
  `set` refuses a value with any other `%` in it; `items` reads every value with its escapes resolved,
  which can fail too, for an option that is not there or one that refers back to itself.

  **What is read back** (`Section.readsBack_iff`): beside values without a `%`, a value that was set is
  read back as it is exactly when it has no `%` either.  Resolving the escapes loses a `%` each time,
  unless a value refers to itself, and then no depth is enough.
-/
import Billing.Lib.Json
import Billing.Lib.Replace

namespace Py

namespace ConfigParser

/-- What the parser raises. -/
inductive Error where
  /-- `ValueError`: a value cannot be set, because of the `%` at `position` of what is left of it. -/
  | invalidValue (value : String) (position : Nat)
  /-- `InterpolationSyntaxError`, at the rest of a value. -/
  | syntaxError (rest : List Char)
  /-- `InterpolationMissingOptionError`. -/
  | missingOption (reference : String)
  /-- `InterpolationDepthError`. -/
  | depthError
  deriving DecidableEq, Repr

/-! ## Escapes -/

/-- The name of a reference `%(name)s` at the front. -/
def reference? : List Char → Option (List Char)
  | '%' :: '(' :: cs =>
    let name := cs.takeWhile fun c => c != ')'
    if name ≠ [] ∧ [')', 's'] <+: cs.drop name.length then some name else none
  | _ => none

/-- `_KEYCRE.sub("", value)`: without its references.  The next `skip` characters belong to one. -/
def dropReferences : Nat → List Char → List Char
  | _, [] => []
  | skip + 1, _ :: cs => dropReferences skip cs
  | 0, c :: cs =>
    match reference? (c :: cs) with
    | none => c :: dropReferences 0 cs
    | some name => dropReferences (name.length + 3) cs

/-- `BasicInterpolation.before_set`. -/
def beforeSet (value : String) : Except Error Unit :=
  let rest := dropReferences 0 (replaceAll ['%', '%'] [] value.toList)
  if '%' ∈ rest then .error (.invalidValue value (rest.idxOf '%')) else .ok ()

/-- `_interpolate_some`: a value with its escapes resolved, where `valueOf` says what a reference stands
    for.  The next `skip` characters belong to an escape that was resolved. -/
def interpolate (valueOf : List Char → Except Error (List Char)) :
    Nat → List Char → Except Error (List Char)
  | _, [] => .ok []
  | skip + 1, _ :: cs => interpolate valueOf skip cs
  | 0, c :: cs =>
    if c ≠ '%' then (interpolate valueOf 0 cs).map fun rest => c :: rest
    else if cs.head? = some '%' then (interpolate valueOf 1 cs).map fun rest => '%' :: rest
    else
      match reference? (c :: cs) with
      | none => .error (.syntaxError (c :: cs))
      | some name =>
        match valueOf name with
        | .error e => .error e
        | .ok value => (interpolate valueOf (name.length + 3) cs).map fun rest => value ++ rest

/-- A value of a section, with references resolved at most `levels` deep. -/
def expand (options : Dict String) : Nat → List Char → Except Error (List Char)
  | 0, _ => .error .depthError
  | levels + 1, cs =>
    interpolate (fun name =>
      match options.get? (lower (String.ofList name)) with
      | none => .error (.missingOption (lower (String.ofList name)))
      | some value =>
        if '%' ∈ value.toList then expand options levels value.toList else .ok value.toList) 0 cs

/-- `MAX_INTERPOLATION_DEPTH`. -/
def maxDepth : Nat := 10

/-! ## Sections -/

/-- A section: its values, over the defaults of the parser. -/
structure Section where
  /-- The values by name. -/
  values : Dict String

namespace Section

/-- `parser.set(section, name, value)`. -/
def set (self : Section) (name value : String) : Except Error Section :=
  match beforeSet value with
  | .error e => .error e
  | .ok () => .ok ⟨self.values.set (lower name) value⟩

/-- The values of some of the options, with their escapes resolved. -/
def itemsOf (options : Dict String) : Dict String → Except Error (Dict String)
  | [] => .ok []
  | (name, value) :: rest =>
    match expand options maxDepth value.toList with
    | .error e => .error e
    | .ok cs => (itemsOf options rest).map fun items => (name, String.ofList cs) :: items

/-- `dict(parser.items(section))`. -/
def items (self : Section) : Except Error (Dict String) := itemsOf self.values self.values

end Section

example : (Section.mk [("url", "a%%b"), ("here", "%(url)s/c")]).items =
    .ok [("url", "a%b"), ("here", "a%b/c")] := by decide

example : Section.items ⟨[("url", "%(url)s")]⟩ = .error .depthError := by decide

/-! ## Values without a `%` -/

theorem reference?_of_ne {c : Char} (h : c ≠ '%') (cs : List Char) : reference? (c :: cs) = none := by
  unfold reference?
  split
  · rename_i heq
    exact absurd (List.cons.inj heq).1 h
  · rfl

theorem dropReferences_of_plain {cs : List Char} (h : '%' ∉ cs) : dropReferences 0 cs = cs := by
  induction cs with
  | nil => rfl
  | cons c cs ih =>
    rw [List.mem_cons, not_or] at h
    rw [dropReferences, reference?_of_ne (Ne.symm h.1)]
    exact congrArg _ (ih h.2)

theorem beforeSet_of_plain {value : String} (h : '%' ∉ value.toList) : beforeSet value = .ok () := by
  have hnone : ¬ ['%', '%'] <:+: value.toList := fun hin => h (hin.subset (List.mem_cons_self))
  unfold beforeSet
  simp only
  rw [replaceAll_eq_self (List.cons_ne_nil _ _) hnone, dropReferences_of_plain h, if_neg h]

theorem interpolate_of_plain (valueOf : List Char → Except Error (List Char)) {cs : List Char}
    (h : '%' ∉ cs) : interpolate valueOf 0 cs = .ok cs := by
  induction cs with
  | nil => rfl
  | cons c cs ih =>
    rw [List.mem_cons, not_or] at h
    rw [interpolate, if_pos (Ne.symm h.1), ih h.2]
    rfl

theorem itemsOf_of_plain (options : Dict String) {d : Dict String}
    (h : ∀ kv ∈ d, '%' ∉ kv.2.toList) : Section.itemsOf options d = .ok d := by
  induction d with
  | nil => rfl
  | cons kv d ih =>
    obtain ⟨name, value⟩ := kv
    have hvalue : expand options maxDepth value.toList = .ok value.toList :=
      interpolate_of_plain _ (h (name, value) List.mem_cons_self)
    rw [Section.itemsOf, hvalue, ih fun kv hkv => h kv (List.mem_cons_of_mem _ hkv)]
    show Except.ok ((name, String.ofList value.toList) :: d) = _
    rw [String.ofList_toList]

/-! ## One escape -/

/-- The names that are referred to. -/
def references : Nat → List Char → List (List Char)
  | _, [] => []
  | skip + 1, _ :: cs => references skip cs
  | 0, c :: cs =>
    if c ≠ '%' then references 0 cs
    else if cs.head? = some '%' then references 1 cs
    else
      match reference? (c :: cs) with
      | none => []
      | some name => name :: references (name.length + 3) cs

/-- **One step**: a character that stands for itself, a `%` that was escaped, or a reference. -/
theorem interpolate_cons_eq_ok {valueOf : List Char → Except Error (List Char)} {c : Char}
    {cs w : List Char} (h : interpolate valueOf 0 (c :: cs) = .ok w) :
    (c ≠ '%' ∧ references 0 (c :: cs) = references 0 cs ∧
      ∃ rest, interpolate valueOf 0 cs = .ok rest ∧ w = c :: rest) ∨
    (c = '%' ∧ references 0 (c :: cs) = references 1 cs ∧ cs.head? = some '%' ∧
      ∃ rest, interpolate valueOf 1 cs = .ok rest ∧ w = '%' :: rest) ∨
    (c = '%' ∧ ∃ name value rest,
      references 0 (c :: cs) = name :: references (name.length + 3) cs ∧ valueOf name = .ok value ∧
      interpolate valueOf (name.length + 3) cs = .ok rest ∧ w = value ++ rest) := by
  have hmap : ∀ (x : Except Error (List Char)) (f : List Char → List Char), x.map f = .ok w →
      ∃ rest, x = .ok rest ∧ w = f rest := by
    intro x f hx
    cases x with
    | error e => cases hx
    | ok rest => exact ⟨rest, rfl, (Except.ok.inj hx).symm⟩
  rw [interpolate] at h
  rw [references]
  by_cases hc : c ≠ '%'
  · rw [if_pos hc] at h ⊢
    exact Or.inl ⟨hc, rfl, hmap _ _ h⟩
  rw [if_neg hc] at h ⊢
  by_cases hpercent : cs.head? = some '%'
  · rw [if_pos hpercent] at h ⊢
    exact Or.inr (Or.inl ⟨not_not.mp hc, rfl, hpercent, hmap _ _ h⟩)
  rw [if_neg hpercent] at h ⊢
  cases hname : reference? (c :: cs) with
  | none => rw [hname] at h; cases h
  | some name =>
    rw [hname] at h
    simp only at h
    cases hvalue : valueOf name with
    | error e => rw [hvalue] at h; cases h
    | ok value =>
      rw [hvalue] at h
      obtain ⟨rest, hrest, hw⟩ := hmap _ _ h
      exact Or.inr (Or.inr ⟨not_not.mp hc, name, value, rest, rfl, hvalue, hrest, hw⟩)

/-- What is referred to has a value. -/
theorem valueOf_of_mem_references {valueOf : List Char → Except Error (List Char)}
    {cs name : List Char} : ∀ {skip w}, interpolate valueOf skip cs = .ok w →
      name ∈ references skip cs → ∃ value, valueOf name = .ok value := by
  induction cs with
  | nil =>
    intro skip w _ hmem
    cases skip <;> cases hmem
  | cons c cs ih =>
    intro skip w h hmem
    cases skip with
    | succ skip => exact ih h hmem
    | zero =>
      obtain ⟨-, hrefs, rest, hrest, -⟩ | ⟨-, hrefs, -, rest, hrest, -⟩ |
        ⟨-, name', value, rest, hrefs, hvalue, hrest, -⟩ := interpolate_cons_eq_ok h
      · exact ih hrest (hrefs ▸ hmem)
      · exact ih hrest (hrefs ▸ hmem)
      · rw [hrefs, List.mem_cons] at hmem
        rcases hmem with rfl | hmem
        · exact ⟨value, hvalue⟩
        · exact ih hrest hmem

/-- **Escapes lose a `%` each**, when what is referred to has none. -/
theorem count_interpolate {valueOf : List Char → Except Error (List Char)} {cs : List Char} :
    ∀ {skip w}, interpolate valueOf skip cs = .ok w →
      (∀ name ∈ references skip cs, ∀ value, valueOf name = .ok value → '%' ∉ value) →
      w.count '%' ≤ (cs.drop skip).count '%' ∧
        ('%' ∈ cs.drop skip → w.count '%' < (cs.drop skip).count '%') := by
  induction cs with
  | nil =>
    intro skip w h _
    have hw : w = [] := by cases skip <;> exact (Except.ok.inj h).symm
    rw [hw, List.drop_nil]
    exact ⟨Nat.le_refl _, fun hmem => absurd hmem List.not_mem_nil⟩
  | cons c cs ih =>
    intro skip w h hplain
    cases skip with
    | succ skip => exact ih h hplain
    | zero =>
      rw [List.drop_zero]
      obtain ⟨hc, hrefs, rest, hrest, rfl⟩ | ⟨rfl, hrefs, hhead, rest, hrest, rfl⟩ |
        ⟨rfl, name, value, rest, hrefs, hvalue, hrest, rfl⟩ := interpolate_cons_eq_ok h
      · obtain ⟨hle, hlt⟩ := ih hrest (hrefs ▸ hplain)
        rw [List.count_cons_of_ne hc, List.count_cons_of_ne hc, List.mem_cons]
        exact ⟨hle, fun hmem => hlt (hmem.resolve_left (Ne.symm hc))⟩
      · obtain ⟨hle, -⟩ := ih hrest (hrefs ▸ hplain)
        obtain ⟨cs, rfl⟩ := List.head?_eq_some_iff.mp hhead
        rw [List.drop_one, List.tail_cons] at hle
        rw [List.count_cons_self, List.count_cons_self, List.count_cons_self]
        omega
      · rw [hrefs] at hplain
        obtain ⟨hle, -⟩ := ih hrest fun name hmem => hplain name (List.mem_cons_of_mem _ hmem)
        have hzero : value.count '%' = 0 :=
          List.count_eq_zero.mpr (hplain name List.mem_cons_self value hvalue)
        have hdrop := (List.drop_sublist (name.length + 3) cs).count_le '%'
        rw [List.count_append, List.count_cons_self]
        omega

/-! ## What is read back -/

/-- The only value with a `%` in it, if any. -/
def OnlyEscaped (options : Dict String) (value : String) : Prop :=
  ∀ name other, options.get? name = some other → '%' ∈ other.toList → other = value

/-- **A value that refers to itself** has no depth at which it is resolved. -/
theorem expand_of_self_reference {options : Dict String} {value : String} {name : List Char}
    (hmem : name ∈ references 0 value.toList)
    (hself : options.get? (lower (String.ofList name)) = some value) (hvalue : '%' ∈ value.toList) :
    ∀ levels w, expand options levels value.toList ≠ .ok w := by
  intro levels
  induction levels with
  | zero => intro w h; cases h
  | succ levels ih =>
    intro w h
    obtain ⟨inner, hinner⟩ := valueOf_of_mem_references h hmem
    simp only [hself, if_pos hvalue] at hinner
    exact ih inner hinner

/-- **A value that was resolved has fewer `%`.** -/
theorem count_expand_lt {options : Dict String} {value : String} (honly : OnlyEscaped options value)
    (hvalue : '%' ∈ value.toList) {levels : Nat} {w : List Char}
    (h : expand options levels value.toList = .ok w) : w.count '%' < value.toList.count '%' := by
  cases levels with
  | zero => cases h
  | succ levels =>
    refine (count_interpolate h ?_).2 hvalue
    intro name hmem found hfound
    cases hget : options.get? (lower (String.ofList name)) with
    | none => simp only [hget] at hfound; cases hfound
    | some other =>
      simp only [hget] at hfound
      by_cases hother : '%' ∈ other.toList
      · obtain rfl := honly _ _ hget hother
        exact absurd h (expand_of_self_reference hmem hget hother (levels + 1) w)
      · rw [if_neg hother] at hfound
        rw [← Except.ok.inj hfound]
        exact hother

namespace Section

/-- No value has a `%`. -/
def Plain (self : Section) : Prop := ∀ kv ∈ self.values, '%' ∉ kv.2.toList

instance (self : Section) : Decidable self.Plain :=
  inferInstanceAs (Decidable (∀ kv ∈ self.values, '%' ∉ kv.2.toList))

/-- The value `value` was set under `name`, and everything was read: `items`. -/
def Reads (self : Section) (name value : String) (items : Dict String) : Prop :=
  ∃ changed, self.set name value = .ok changed ∧ changed.items = .ok items

theorem get?_itemsOf {options d items : Dict String} (h : itemsOf options d = .ok items)
    {name value : String} (hget : d.get? name = some value) :
    ∃ cs, expand options maxDepth value.toList = .ok cs ∧
      items.get? name = some (String.ofList cs) := by
  induction d generalizing items with
  | nil => cases hget
  | cons kv d ih =>
    obtain ⟨key, other⟩ := kv
    rw [itemsOf] at h
    cases hother : expand options maxDepth other.toList with
    | error e => rw [hother] at h; cases h
    | ok cs =>
      rw [hother] at h
      simp only at h
      cases hrest : itemsOf options d with
      | error e => rw [hrest] at h; cases h
      | ok rest =>
        rw [hrest] at h
        obtain rfl := Except.ok.inj h
        by_cases hkey : key = name
        · rw [Dict.get?, if_pos hkey] at hget ⊢
          obtain rfl := Option.some.inj hget
          exact ⟨cs, hother, rfl⟩
        · rw [Dict.get?, if_neg hkey] at hget ⊢
          exact ih hrest hget

/-- **What is read back as it was set** is what has no `%`. -/
theorem readsBack_iff {self : Section} (hself : self.Plain) (name value : String) :
    (∃ items, self.Reads name value items ∧ items.get? (lower name) = some value) ↔
      '%' ∉ value.toList := by
  constructor
  · rintro ⟨items, ⟨changed, hset, hitems⟩, hget⟩ hvalue
    unfold set at hset
    cases hbefore : beforeSet value with
    | error e => rw [hbefore] at hset; cases hset
    | ok u =>
      rw [hbefore] at hset
      obtain rfl := Except.ok.inj hset
      have hset : (self.values.set (lower name) value).get? (lower name) = some value := by
        rw [Dict.get?_set, if_pos rfl]
      obtain ⟨cs, hexpand, hread⟩ := get?_itemsOf hitems hset
      have honly : OnlyEscaped (self.values.set (lower name) value) value := by
        intro key other hget hother
        rcases Dict.mem_set (Dict.mem_of_get? hget) with hmem | heq
        · exact absurd hother (hself _ hmem)
        · exact (Prod.mk.inj heq).2
      have hlt := count_expand_lt honly hvalue hexpand
      rw [hread, Option.some.injEq] at hget
      rw [← hget, String.toList_ofList] at hlt
      exact Nat.lt_irrefl _ hlt
  · intro hvalue
    have hplain : ∀ kv ∈ self.values.set (lower name) value, '%' ∉ kv.2.toList := by
      intro kv hkv
      rcases Dict.mem_set hkv with hmem | rfl
      · exact hself kv hmem
      · exact hvalue
    refine ⟨_, ⟨⟨self.values.set (lower name) value⟩, ?_, itemsOf_of_plain _ hplain⟩, ?_⟩
    · rw [set, beforeSet_of_plain hvalue]
    · rw [Dict.get?_set, if_pos rfl]

end Section

end ConfigParser

end Py
