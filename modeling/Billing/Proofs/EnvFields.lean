/-
  The passes of `prepare_env` over the values of an env file, as fields of a pipeline.

  A field is lower-cased and looked up, read as an integer, or read as a list, and what is written in
  its place is a `NormalValue`: stripped, not blank, in one line.  Each normaliser leaves what it wrote;
  the checks read what nobody writes, or only ask that something is not blank.

  `validateValues_eq_ok` is `prepare_env` in terms of the pipeline: its fields, and then the level of the
  log in upper case.
-/
import Billing.Lib.Passes
import Billing.Proofs.EnvFiles
import Billing.Proofs.ListFields

namespace Billing

open Py Passes Field

/-- A value that can be read back, and is not blank. -/
structure NormalValue (value : String) : Prop extends ValueText value where
  nonblank : value ≠ ""

/-! ## Words -/

/-- A word as the normalisers compare it: stripped, in lower case. -/
structure LowerWord (word : String) : Prop where
  normal : NormalValue word
  lowered : lower word = word

/-- A field that is looked up in lower case; `blank` says what becomes of a blank one. -/
def wordValue (words : List String) (blank : Option String → Except Exc (Option String))
    (otherwise : Exc) (old : Option String) : Except Exc (Option String) :=
  let rawValue := strip (old.getD "")
  if rawValue = "" then blank old
  else if lower rawValue ∈ words then .ok (some (lower rawValue))
  else .error otherwise

section Words

variable {words : List String} {blank : Option String → Except Exc (Option String)} {otherwise : Exc}

theorem wordValue_good (hwords : ∀ word ∈ words, LowerWord word)
    (hblank : ∀ {old new}, blank old = .ok (some new) → new ∈ words) {old : Option String}
    {new : String} (h : wordValue words blank otherwise old = .ok (some new)) :
    NormalValue new ∧ wordValue words blank otherwise (some new) = .ok (some new) := by
  have hnew : new ∈ words := by
    unfold wordValue at h
    simp only at h
    split at h
    · exact hblank h
    split at h
    · rename_i hmem
      rw [← Option.some.inj (Except.ok.inj h)]
      exact hmem
    · cases h
  have hword := hwords new hnew
  refine ⟨hword.normal, ?_⟩
  unfold wordValue
  simp only [Option.getD_some, hword.normal.stripped, if_neg hword.normal.nonblank, hword.lowered,
    if_pos hnew]

/-- A field that is not there is blank. -/
theorem wordValue_none : wordValue words blank otherwise none = blank none := by
  have hblank : strip ((none : Option String).getD "") = "" := by decide
  unfold wordValue
  simp only [if_pos hblank]

end Words

instance (value : String) : Decidable (NormalValue value) :=
  decidable_of_iff ((strip value = value ∧ OneLine value.toList) ∧ value ≠ "")
    ⟨fun h => ⟨⟨h.1.1, h.1.2⟩, h.2⟩, fun h => ⟨⟨h.stripped, h.oneLine⟩, h.nonblank⟩⟩

instance (word : String) : Decidable (LowerWord word) :=
  decidable_of_iff (NormalValue word ∧ lower word = word)
    ⟨fun h => ⟨h.1, h.2⟩, fun h => ⟨h.normal, h.lowered⟩⟩

theorem booleans_lower : ∀ word ∈ ["true", "false"], LowerWord word := by decide +kernel

theorem environments_lower : ∀ word ∈ validEnvironments, LowerWord word := by decide +kernel

theorem lower_eq_empty_iff {text : String} : lower text = "" ↔ text = "" := by
  rw [← String.toList_inj, ← String.toList_inj, lower, String.toList_ofList]
  constructor
  · intro h
    cases hcs : text.toList with
    | nil => rfl
    | cons c cs =>
      rw [hcs, List.flatMap_cons] at h
      have hnil := (List.append_eq_nil_iff.mp h).1
      unfold lowerChar at hnil
      split at hnil
      · cases hnil
      split at hnil
      · cases hnil
      · cases hnil
  · intro h
    rw [h]
    rfl

/-- What becomes of a field that is looked up. -/
theorem keyPass_wordValue {words : List String} {blank : Option String → Except Exc (Option String)}
    {otherwise : Exc} {key : String} (values : Dict String) :
    keyPass key (wordValue words blank otherwise) values =
      if strippedValue values key = "" then keyPass key blank values
      else if lower (strippedValue values key) ∈ words then
        .ok (values.set key (lower (strippedValue values key)))
      else .error otherwise := by
  unfold keyPass wordValue strippedValue
  simp only
  by_cases hblank : strip ((values.get? key).getD "") = ""
  · rw [if_pos hblank, if_pos hblank]
  · rw [if_neg hblank, if_neg hblank]
    by_cases hword : lower (strip ((values.get? key).getD "")) ∈ words
    · rw [if_pos hword, if_pos hword]
    · rw [if_neg hword, if_neg hword]

/-- The error for a field that is blank. -/
def isRequired (key : String) : Option String → Except Exc (Option String) :=
  fun _ => .error (.valueError (key ++ " is required."))

/-- A blank field that is there takes its default. -/
def takesDefault (default : String) (old : Option String) : Except Exc (Option String) :=
  .ok (old.map fun _ => default)

theorem keyPass_takesDefault {key default : String} (values : Dict String) :
    keyPass key (takesDefault default) values = .ok (setDefault values key default) := by
  unfold keyPass takesDefault setDefault
  cases values.get? key with
  | none => rfl
  | some old => rfl

/-- A field that is looked up and is there. -/
theorem lookup_eq_keyPass {words : List String} {otherwise : Exc} {key : String}
    (values : Dict String) : (do
      let rawValue := lower (← requireNonEmpty values key)
      if rawValue ∈ words then .ok (values.set key rawValue) else .error otherwise) =
      keyPass key (wordValue words (isRequired key) otherwise) values := by
  rw [keyPass_wordValue]
  unfold requireNonEmpty
  by_cases hblank : strippedValue values key = ""
  · simp only [if_pos hblank]
    rfl
  · simp only [if_neg hblank, ok_bind]

/-- `LOG_JSON` and its like. -/
def booleanField (key : String) : Field String Exc NormalValue :=
  .ofKey (fun values => normalizeBoolean values key) key []
    (wordValue ["true", "false"] (isRequired key) (.valueError (key ++ " must be true or false.")))
    (fun {d} {d'} => by rw [← lookup_eq_keyPass]; exact Iff.rfl)
    (wordValue_good booleans_lower fun h => (by cases h))
    (fun h => (by rw [wordValue_none] at h; cases h))

/-- `ENVIRONMENT`. -/
def environmentField : Field String Exc NormalValue :=
  .ofKey validateEnvironment "ENVIRONMENT" []
    (wordValue validEnvironments (isRequired "ENVIRONMENT") (.valueError
      "ENVIRONMENT must be one of: development, test, staging, production."))
    (fun {d} {d'} => by rw [← lookup_eq_keyPass]; exact Iff.rfl)
    (wordValue_good environments_lower fun h => (by cases h))
    (fun h => (by rw [wordValue_none] at h; cases h))

/-- `SMTP_USE_TLS` and its like, with a default that is one of the two words. -/
def optionalBooleanField (key : String) (default : String) (hdefault : default ∈ ["true", "false"]) :
    Field String Exc NormalValue :=
  .ofKey (fun values => normalizeOptionalBoolean values key default) key []
    (wordValue ["true", "false"] (takesDefault default)
      (.valueError (key ++ " must be true or false.")))
    (fun {d} {d'} => by
      rw [keyPass_wordValue, keyPass_takesDefault]
      unfold normalizeOptionalBoolean
      simp only [lower_eq_empty_iff])
    (wordValue_good booleans_lower fun {old} {new} h => by
      unfold takesDefault at h
      cases old with
      | none => cases h
      | some old =>
        rw [← Option.some.inj (Except.ok.inj h)]
        exact hdefault)
    (fun h => (by rw [wordValue_none] at h; cases h))

/-! ## Integers -/

/-- A positive integer that can be written. -/
structure Writes (number : Int) : Prop where
  positive : 0 < number
  short : (Nat.toDigits 10 number.natAbs).length ≤ maxStrDigits

/-- A field that is read as an integer; `blank` says what becomes of a blank one. -/
def integerValue (key : String) (blank : Option String → Except Exc (Option String))
    (old : Option String) : Except Exc (Option String) :=
  let rawValue := strip (old.getD "")
  if rawValue = "" then blank old
  else
    match intOf rawValue with
    | none => .error (.valueError (key ++ " must be an integer."))
    | some number =>
      if number ≤ 0 then .error (.valueError (key ++ " must be greater than zero."))
      else .ok (some (intText number))

/-- The text of a positive integer is read back. -/
theorem intText_good {number : Int} (h : Writes number) :
    NormalValue (intText number) ∧ ∀ key blank,
      integerValue key blank (some (intText number)) = .ok (some (intText number)) := by
  have hplain : ∀ c ∈ (intText number).toList, Decimal.Plain c :=
    fun c hc => .of_isDigit (isDigit_of_mem_intText h.positive hc)
  have hstripped : strip (intText number) = intText number := by
    rw [strip, stripChars_eq_self fun c hc => (hplain c hc).1, String.ofList_toList]
  have hnonblank : intText number ≠ "" := by
    intro hblank
    have hchars := toList_intText_of_pos h.positive
    rw [hblank] at hchars
    exact Nat.toDigits_ne_nil hchars.symm
  refine ⟨⟨⟨hstripped, fun c hc => isLineBreak_of_not_isSpace (hplain c hc).1⟩, hnonblank⟩, ?_⟩
  intro key blank
  unfold integerValue
  simp only [Option.getD_some, hstripped, if_neg hnonblank, intOf_intText h.positive h.short,
    if_neg (Int.not_le.mpr h.positive)]

theorem integerValue_good {key : String} {blank : Option String → Except Exc (Option String)}
    (hblank : ∀ {old new}, blank old = .ok (some new) → ∃ number, Writes number ∧ new = intText number)
    {old : Option String} {new : String} (h : integerValue key blank old = .ok (some new)) :
    NormalValue new ∧ integerValue key blank (some new) = .ok (some new) := by
  have hnew : ∃ number, Writes number ∧ new = intText number := by
    unfold integerValue at h
    simp only at h
    split at h
    · exact hblank h
    split at h
    · cases h
    · rename_i number hnumber
      split at h
      · cases h
      · rename_i hpos
        exact ⟨number, ⟨Int.not_le.mp hpos, length_of_intOf hnumber⟩,
          (Option.some.inj (Except.ok.inj h)).symm⟩
  obtain ⟨number, hnumber, rfl⟩ := hnew
  exact ⟨(intText_good hnumber).1, (intText_good hnumber).2 key blank⟩

/-- A field that is not there is blank. -/
theorem integerValue_none {key : String} {blank : Option String → Except Exc (Option String)} :
    integerValue key blank none = blank none := by
  have hblank : strip ((none : Option String).getD "") = "" := by decide
  unfold integerValue
  simp only [if_pos hblank]

/-- What becomes of a field that is read as an integer. -/
theorem keyPass_integerValue {key : String} {blank : Option String → Except Exc (Option String)}
    (values : Dict String) :
    keyPass key (integerValue key blank) values =
      if strippedValue values key = "" then keyPass key blank values
      else normalizePositiveInteger values key := by
  unfold keyPass integerValue normalizePositiveInteger strippedValue
  simp only
  by_cases hblank : strip ((values.get? key).getD "") = ""
  · rw [if_pos hblank, if_pos hblank]
  · rw [if_neg hblank, if_neg hblank, if_neg hblank]
    cases intOf (strip ((values.get? key).getD "")) with
    | none => rfl
    | some number =>
      simp only
      by_cases hpos : number ≤ 0
      · rw [if_pos hpos, if_pos hpos]
      · rw [if_neg hpos, if_neg hpos]

/-- A blank field stays as it is. -/
def staysBlank (_ : Option String) : Except Exc (Option String) := .ok none

/-- `JWT_EXPIRATION_MINUTES` and its like. -/
def integerField (key : String) : Field String Exc NormalValue :=
  .ofKey (fun values => normalizePositiveInteger values key) key [] (integerValue key staysBlank)
    (fun {d} {d'} => by
      rw [keyPass_integerValue]
      by_cases hblank : strippedValue d key = ""
      · rw [if_pos hblank]
        unfold normalizePositiveInteger
        simp only [if_pos hblank]
        exact Iff.rfl
      · rw [if_neg hblank])
    (integerValue_good fun h => (by cases h))
    (fun h => (by rw [integerValue_none] at h; cases h))

/-- `SMTP_PORT` and its like, with a default that is a positive integer. -/
def optionalIntegerField (key default : String)
    (hdefault : ∃ number, Writes number ∧ default = intText number) : Field String Exc NormalValue :=
  .ofKey (fun values => normalizeOptionalPositiveInteger values key default) key []
    (integerValue key (takesDefault default))
    (fun {d} {d'} => by
      rw [keyPass_integerValue, keyPass_takesDefault]
      exact Iff.rfl)
    (integerValue_good fun {old} {new} h => by
      unfold takesDefault at h
      cases old with
      | none => cases h
      | some old =>
        rw [← Option.some.inj (Except.ok.inj h)]
        exact hdefault)
    (fun h => (by rw [integerValue_none] at h; cases h))

/-! ## Lists -/

/-- What is written for a list is printable ASCII. -/
theorem printable_listText (items : List String) :
    ∀ c ∈ (listText items).toList, 32 ≤ c.toNat ∧ c.toNat ≤ 126 := by
  have hitems : ∀ c ∈ Json.dumpItems (items.map .str), 32 ≤ c.toNat ∧ c.toNat ≤ 126 := by
    induction items with
    | nil => exact fun c hc => absurd hc List.not_mem_nil
    | cons item items ih =>
      rw [List.map_cons, Json.dumpItems, Json.dumpChars]
      intro c hc
      rcases List.mem_append.mp hc with hc | hc
      · exact Json.printable_dumpText item c hc
      rcases List.mem_append.mp hc with hc | hc
      · split at hc
        · cases hc
        · rw [List.mem_singleton.mp hc]
          decide
      · exact ih c hc
  intro c hc
  rw [listText_toList] at hc
  rcases List.mem_cons.mp hc with rfl | hc
  · decide
  rcases List.mem_append.mp hc with hc | hc
  · exact hitems c hc
  · rw [List.mem_singleton.mp hc]
    decide

theorem normalValue_listText (items : List String) : NormalValue (listText items) := by
  refine ⟨⟨strip_listText items, fun c hc => ?_⟩, listText_ne_empty items⟩
  have hc := printable_listText items c hc
  simp only [isLineBreak, Bool.or_eq_false_iff, Bool.and_eq_false_iff, decide_eq_false_iff_not,
    beq_eq_false_iff_ne]
  omega

section Lists

variable [Python]

/-- A field that is read as a list. -/
def listValue (key : String) (old : Option String) : Except Exc (Option String) :=
  match parseCsvOrJsonList (.inl (strip (old.getD ""))) with
  | .error e => .error e
  | .ok items =>
    if items = [] then .error (.valueError (key ++ " must contain at least one value."))
    else .ok (some (listText items))

theorem listValue_eq_ok {key : String} {old new : Option String} :
    listValue key old = .ok new ↔ ∃ items, parseCsvOrJsonList (.inl (strip (old.getD ""))) = .ok items ∧
      items ≠ [] ∧ new = some (listText items) := by
  unfold listValue
  cases parseCsvOrJsonList (.inl (strip (old.getD ""))) with
  | error e => exact ⟨fun h => (by cases h), fun ⟨_, h, _⟩ => (by cases h)⟩
  | ok items =>
    simp only
    constructor
    · intro h
      by_cases hitems : items = []
      · rw [if_pos hitems] at h
        cases h
      · rw [if_neg hitems] at h
        exact ⟨items, rfl, hitems, (Except.ok.inj h).symm⟩
    · rintro ⟨items', h, hitems, rfl⟩
      obtain rfl := Except.ok.inj h
      rw [if_neg hitems]

/-- `CORS_ALLOWED_ORIGINS` and `TRUSTED_HOSTS`. -/
def listField (key : String) : Field String Exc NormalValue :=
  .ofKey (fun values => normalizeListField values key) key [] (listValue key)
    (fun {d} {d'} => by
      rw [normalizeListField_eq_ok, keyPass_eq_ok]
      simp only [listValue_eq_ok]
      constructor
      · rintro ⟨items, hitems, hne, rfl⟩
        exact Or.inr ⟨_, ⟨items, hitems, hne, rfl⟩, rfl⟩
      · rintro (⟨⟨_, _, _, h⟩, _⟩ | ⟨new, ⟨items, hitems, hne, hnew⟩, rfl⟩)
        · cases h
        · rw [Option.some.inj hnew]
          exact ⟨items, hitems, hne, rfl⟩)
    (fun {old} {new} h => by
      obtain ⟨items, hitems, hne, hnew⟩ := listValue_eq_ok.mp h
      rw [Option.some.inj hnew]
      refine ⟨normalValue_listText items, listValue_eq_ok.mpr ⟨items, ?_, hne, rfl⟩⟩
      rw [Option.getD_some, strip_listText, parseCsvOrJsonList_listText,
        parseCsvOrJsonList_stripped hitems])
    (fun {new} h => by
      obtain ⟨items, hitems, hne, -⟩ := listValue_eq_ok.mp h
      have hblank : strip ((none : Option String).getD "") = "" := by decide
      have hempty : parseCsvOrJsonList (.inl "") = .ok [] := rfl
      rw [hblank, hempty] at hitems
      exact absurd (Except.ok.inj hitems).symm hne)

end Lists

/-! ## The provider of the mails -/

section Upper

variable [UpperCase]

/-- `EMAIL_PROVIDER`, which is `SMTP` where it is not given. -/
def providerValue (old : Option String) : Except Exc (Option String) :=
  let provider := upper (strip (old.getD "SMTP"))
  let provider := if provider = "" then "SMTP" else provider
  if provider ∈ validEmailProviders then .ok (some provider)
  else .error (.valueError "EMAIL_PROVIDER must be SMTP or NOOP.")

omit [UpperCase] in
theorem providers_normal : ∀ word ∈ validEmailProviders, NormalValue word ∧
    word.toList.all (fun c => decide (c.toNat < 128)) = true ∧ String.ofList (word.toList.map Char.toUpper) = word := by
  decide +kernel

theorem providerValue_of_mem {word : String} (h : word ∈ validEmailProviders) :
    providerValue (some word) = .ok (some word) := by
  obtain ⟨hnormal, hall, hupper⟩ := providers_normal word h
  have hascii : ∀ c ∈ word.toList, c.toNat < 128 :=
    fun c hc => of_decide_eq_true (List.all_eq_true.mp hall c hc)
  unfold providerValue
  simp only [Option.getD_some, hnormal.stripped, upper_ascii hascii, hupper, if_neg hnormal.nonblank,
    if_pos h]

theorem providerValue_mem {old : Option String} {new : String}
    (h : providerValue old = .ok (some new)) : new ∈ validEmailProviders := by
  unfold providerValue at h
  simp only at h
  generalize upper (strip (old.getD "SMTP")) = text at h
  generalize (if text = "" then "SMTP" else text) = provider at h
  by_cases hmem : provider ∈ validEmailProviders
  · rw [if_pos hmem] at h
    exact Option.some.inj (Except.ok.inj h) ▸ hmem
  · rw [if_neg hmem] at h
    cases h

theorem normalizeEmailProvider_eq_keyPass (values : Dict String) :
    normalizeEmailProvider values = keyPass "EMAIL_PROVIDER" providerValue values := by
  unfold normalizeEmailProvider keyPass providerValue
  simp only
  generalize upper (strip ((values.get? "EMAIL_PROVIDER").getD "SMTP")) = text
  generalize (if text = "" then "SMTP" else text) = provider
  by_cases hmem : provider ∈ validEmailProviders
  · rw [if_pos hmem, if_pos hmem]
  · rw [if_neg hmem, if_neg hmem]

/-- The provider is always written. -/
theorem normalizeEmailProvider_eq_ok {values values' : Dict String}
    (h : normalizeEmailProvider values = .ok values') :
    ∃ provider, providerValue (values.get? "EMAIL_PROVIDER") = .ok (some provider) ∧
      values' = values.set "EMAIL_PROVIDER" provider := by
  rw [normalizeEmailProvider_eq_keyPass, keyPass_eq_ok] at h
  rcases h with ⟨hnone, -⟩ | hsome
  · unfold providerValue at hnone
    simp only at hnone
    generalize upper (strip ((values.get? "EMAIL_PROVIDER").getD "SMTP")) = text at hnone
    generalize (if text = "" then "SMTP" else text) = provider at hnone
    by_cases hmem : provider ∈ validEmailProviders
    · rw [if_pos hmem] at hnone
      cases Except.ok.inj hnone
    · rw [if_neg hmem] at hnone
      cases hnone
  · exact hsome

/-- `EMAIL_PROVIDER`, which is written even where it is not there. -/
def providerField : Field String Exc NormalValue :=
  .ofKey normalizeEmailProvider "EMAIL_PROVIDER" ["EMAIL_PROVIDER"] providerValue
    (fun {d} {d'} => by rw [normalizeEmailProvider_eq_keyPass])
    (fun h => ⟨(providers_normal _ (providerValue_mem h)).1, providerValue_of_mem (providerValue_mem h)⟩)
    (fun _ => List.mem_singleton_self _)

theorem providerField_run : providerField.run = normalizeEmailProvider := by
  unfold providerField ofKey
  dsimp only

end Upper

/-! ## Checks -/

theorem strippedValue_congr {d e : Dict String} {key : String} (h : d.get? key = e.get? key) :
    strippedValue d key = strippedValue e key := by
  unfold strippedValue
  rw [h]

/-- A good value fills a field, and disturbs no other. -/
theorem strippedValue_set_ne_empty {d : Dict String} {key value : String} (hvalue : NormalValue value)
    {other : String} (h : strippedValue d other ≠ "") : strippedValue (d.set key value) other ≠ "" := by
  unfold strippedValue at *
  rw [Dict.get?_set]
  by_cases hkey : key = other
  · rw [if_pos hkey, Option.getD_some, hvalue.stripped]
    exact hvalue.nonblank
  · rwa [if_neg hkey]

theorem validateRequiredTextFields_eq_ok {values : Dict String} :
    validateRequiredTextFields values = .ok () ↔
      ∀ key ∈ requiredTextFields, strippedValue values key ≠ "" := by
  unfold validateRequiredTextFields
  generalize requiredTextFields = keys
  induction keys with
  | nil => exact ⟨fun _ key hkey => absurd hkey List.not_mem_nil, fun _ => rfl⟩
  | cons key keys ih =>
    rw [List.forall_mem_cons, ← ih]
    show ((do let _ ← requireNonEmpty values key) >>= fun _ => keys.forM _) = Except.ok () ↔ _
    rw [bind_eq_ok]
    by_cases hblank : strippedValue values key = ""
    · have hrequired : requireNonEmpty values key = .error (.valueError (key ++ " is required.")) := by
        simp only [requireNonEmpty, if_pos hblank]
      rw [hrequired]
      exact ⟨fun ⟨_, h, _⟩ => (by cases h), fun h => absurd hblank h.1⟩
    · have hrequired : requireNonEmpty values key = .ok (strippedValue values key) := by
        simp only [requireNonEmpty, if_neg hblank]
      rw [hrequired]
      exact ⟨fun ⟨_, _, h⟩ => ⟨hblank, h⟩, fun h => ⟨_, rfl, h.2⟩⟩

/-- The texts that must not be blank. -/
def requiredField : Field String Exc NormalValue :=
  .ofCheck validateRequiredTextFields requiredTextFields []
    (fun hagree h => by
      rw [validateRequiredTextFields_eq_ok] at h ⊢
      intro key hkey
      rw [← strippedValue_congr (hagree key hkey)]
      exact h key hkey)
    (fun _ hvalue h => by
      rw [validateRequiredTextFields_eq_ok] at h ⊢
      exact fun key hkey => strippedValue_set_ne_empty hvalue (h key hkey))

/-- The names of the secrets. -/
def secretKeys : List String :=
  ["APPROVAL_TOKEN_SECRET", "JWT_SECRET", "CUSTOMER_JWT_SECRET"]

/-- The secrets, of which each must be given or have a file. -/
def secretsField : Field String Exc NormalValue :=
  .ofCheck validateSecretContract (secretKeys ++ secretKeys.map (· ++ "_FILE")) []
    (fun hagree h => by
      rw [validateSecretContract_eq_ok] at h ⊢
      intro key hkey
      rw [← strippedValue_congr (hagree key (List.mem_append_left _ hkey)),
        ← strippedValue_congr (hagree (key ++ "_FILE")
          (List.mem_append_right _ (List.mem_map_of_mem hkey)))]
      exact h key hkey)
    (fun _ hvalue h => by
      rw [validateSecretContract_eq_ok] at h ⊢
      intro key hkey
      exact (h key hkey).imp (strippedValue_set_ne_empty hvalue) (strippedValue_set_ne_empty hvalue))

section Urls

variable [UrlRules]

/-- What `validate_database_url` reads. -/
def databaseKeys : List String := ["DATABASE_URL", "EXPECTED_DATABASE_NAME", "EXPECTED_DATABASE_USERNAME"]

theorem validateDatabaseUrl_frame {d e : Dict String}
    (hagree : ∀ key ∈ databaseKeys, d.get? key = e.get? key) (h : validateDatabaseUrl d = .ok ()) :
    validateDatabaseUrl e = .ok () := by
  simp only [databaseKeys, List.forall_mem_cons, List.not_mem_nil, false_implies, implies_true,
    and_true] at hagree
  unfold validateDatabaseUrl requireNonEmpty at h ⊢
  rwa [← strippedValue_congr hagree.1, ← hagree.2.1, ← hagree.2.2]

/-- The database. -/
def databaseField : Field String Exc NormalValue :=
  .ofCheck validateDatabaseUrl databaseKeys databaseKeys validateDatabaseUrl_frame
    (fun hkey _ h => stable_of_frame validateDatabaseUrl_frame hkey h)

theorem validateAppBaseUrl_frame {d e : Dict String}
    (hagree : ∀ key ∈ ["APP_BASE_URL"], d.get? key = e.get? key) (h : validateAppBaseUrl d = .ok ()) :
    validateAppBaseUrl e = .ok () := by
  unfold validateAppBaseUrl requireNonEmpty at h ⊢
  rwa [← strippedValue_congr (hagree _ (List.mem_singleton_self _))]

/-- The address of the service. -/
def appBaseUrlField : Field String Exc NormalValue :=
  .ofCheck validateAppBaseUrl ["APP_BASE_URL"] ["APP_BASE_URL"] validateAppBaseUrl_frame
    (fun hkey _ h => stable_of_frame validateAppBaseUrl_frame hkey h)

end Urls

/-! ## The pipeline -/

theorem false_boolean : "false" ∈ ["true", "false"] := by decide

theorem writes_587 : ∃ number, Writes number ∧ "587" = intText number :=
  ⟨587, ⟨by decide, by decide⟩, by decide⟩

theorem writes_10 : ∃ number, Writes number ∧ "10" = intText number :=
  ⟨10, ⟨by decide, by decide⟩, by decide⟩

section Pipeline

variable [Python] [UrlRules] [UpperCase]

/-- The fields before the provider of the mails. -/
def fieldsBefore : List (Field String Exc NormalValue) := [requiredField, environmentField]

/-- The fields after it. -/
def fieldsAfter : List (Field String Exc NormalValue) :=
  [booleanField "LOG_JSON", optionalBooleanField "SMTP_USE_TLS" "false" false_boolean,
    optionalBooleanField "SMTP_USE_AUTH" "false" false_boolean,
    integerField "HEALTHCHECK_TIMEOUT_SECONDS", integerField "APPROVAL_TOKEN_TTL_MINUTES",
    integerField "JWT_EXPIRATION_MINUTES", optionalIntegerField "SMTP_PORT" "587" writes_587,
    optionalIntegerField "SMTP_TIMEOUT_SECONDS" "10" writes_10, databaseField, appBaseUrlField,
    listField "CORS_ALLOWED_ORIGINS", listField "TRUSTED_HOSTS", secretsField]

/-- The fields of `prepare_env`. -/
def envFields : List (Field String Exc NormalValue) := fieldsBefore ++ providerField :: fieldsAfter

/-- What the fields need, and what they write. -/
def envKeys : List (List String × List String) :=
  [([], []), (["ENVIRONMENT"], ["ENVIRONMENT"]), (["EMAIL_PROVIDER"], ["EMAIL_PROVIDER"]),
    (["LOG_JSON"], ["LOG_JSON"]), (["SMTP_USE_TLS"], ["SMTP_USE_TLS"]),
    (["SMTP_USE_AUTH"], ["SMTP_USE_AUTH"]),
    (["HEALTHCHECK_TIMEOUT_SECONDS"], ["HEALTHCHECK_TIMEOUT_SECONDS"]),
    (["APPROVAL_TOKEN_TTL_MINUTES"], ["APPROVAL_TOKEN_TTL_MINUTES"]),
    (["JWT_EXPIRATION_MINUTES"], ["JWT_EXPIRATION_MINUTES"]), (["SMTP_PORT"], ["SMTP_PORT"]),
    (["SMTP_TIMEOUT_SECONDS"], ["SMTP_TIMEOUT_SECONDS"]), (databaseKeys, []), (["APP_BASE_URL"], []),
    (["CORS_ALLOWED_ORIGINS"], ["CORS_ALLOWED_ORIGINS"]), (["TRUSTED_HOSTS"], ["TRUSTED_HOSTS"]),
    ([], [])]

theorem envFields_keys : envFields.map (fun field => (field.needs, field.writes)) = envKeys := rfl

/-- No normaliser writes what an earlier pass needs. -/
theorem envFields_ordered : Ordered envFields := by
  have hpairwise : envKeys.Pairwise fun p q => ∀ key ∈ q.2, key ∉ p.1 := by decide +kernel
  rw [← envFields_keys] at hpairwise
  exact List.pairwise_map.mp hpairwise

/-- **`prepare_env` is its fields**, and then the level of the log. -/
theorem validateValues_eq (values : Dict String) :
    validateValues values = runAll envFields values >>= upperLogLevel := by
  unfold validateValues envFields fieldsBefore fieldsAfter
  simp only [List.cons_append, List.nil_append, requiredBooleanFields, optionalBooleanDefaults,
    requiredPositiveIntegerFields, optionalPositiveIntegerDefaults, List.foldlM_cons, List.foldlM_nil,
    requiredField, environmentField, providerField, booleanField, optionalBooleanField, integerField,
    optionalIntegerField, databaseField, appBaseUrlField, listField, secretsField, ofKey, ofCheck,
    checkPass, runAll, bind_assoc, pure_bind]
  rfl

end Pipeline

end Billing
