/-
  Preparing an env file is a faithful rewrite, and preparing it again changes nothing.

  `Prepared` is what a run over the values leaves behind: values that can be read back, on which no pass
  has anything left to do, under the keys that were there and that of the mail provider.  The file keeps
  the keys that it had, so a provider that was not given is not written; what is read from the file again
  has all the rest, and the pass of the provider puts it back (`validateValues_reread`).

  `prepare_env_faithful` is the whole of it.
-/
import Billing.Proofs.DatabaseUrls
import Billing.Proofs.EnvFields

namespace Billing

open Py Passes Field

section Preparing

variable [UpperCase]

/-! ## The level of the log -/

/-- Upper case keeps a value good. -/
theorem normalValue_upper {value : String} (h : NormalValue value) : NormalValue (upper value) := by
  refine ⟨⟨strip_upper h.stripped, fun d hd => ?_⟩, fun hblank => h.nonblank (upper_eq_empty_iff.mp hblank)⟩
  rw [toList_upper] at hd
  obtain ⟨c, hc, hd⟩ := List.mem_flatMap.mp hd
  by_cases hspace : isSpace c = true
  · rw [UpperCase.upperChar_space c hspace, List.mem_singleton] at hd
    rw [hd]
    exact h.oneLine c hc
  · exact isLineBreak_of_not_isSpace
      (UpperCase.isSpace_upperChar c (Bool.eq_false_iff.mpr hspace) d hd)

theorem upperLogLevel_eq_ok {values values' : Dict String} :
    upperLogLevel values = .ok values' ↔ ∃ value, values.get? "LOG_LEVEL" = some value ∧
      values' = values.set "LOG_LEVEL" (upper value) := by
  unfold upperLogLevel
  cases values.get? "LOG_LEVEL" with
  | none => exact ⟨fun h => (by cases h), fun ⟨_, h, _⟩ => (by cases h)⟩
  | some value =>
    constructor
    · exact fun h => ⟨value, rfl, (Except.ok.inj h).symm⟩
    · rintro ⟨value', h, rfl⟩
      rw [Option.some.inj h]

variable [Python] [UrlRules]

/-! ## What a run leaves -/

/-- **What a run over the values leaves.** -/
structure Prepared (values values' : Dict String) : Prop where
  /-- The values can be read back. -/
  readable : ∀ kv ∈ values', ValueText kv.2
  /-- No pass has anything left to do. -/
  fixed : ∀ field ∈ envFields, field.run values' = .ok values'
  /-- Nor has the last step. -/
  logLevel : upperLogLevel values' = .ok values'
  /-- Nothing but the provider came to the keys. -/
  keys : values'.map Prod.fst =
    if "EMAIL_PROVIDER" ∈ values.map Prod.fst then values.map Prod.fst
    else values.map Prod.fst ++ ["EMAIL_PROVIDER"]
  /-- Where it came, it is this one. -/
  provider : "EMAIL_PROVIDER" ∉ values.map Prod.fst → values'.get? "EMAIL_PROVIDER" = some "SMTP"

omit [UpperCase] in
/-- Only the provider is created, and only its pass writes it. -/
theorem envFields_others {field : Field String Exc NormalValue}
    (hmem : field ∈ fieldsBefore ++ fieldsAfter) :
    field.creates = [] ∧ "EMAIL_PROVIDER" ∉ field.writes := by
  have hcreates : (fieldsBefore ++ fieldsAfter).map Field.creates = List.replicate 15 [] := rfl
  have hwrites : (fieldsBefore ++ fieldsAfter).map Field.writes =
      (envKeys.eraseIdx 2).map Prod.snd := rfl
  have hnone : ∀ writes ∈ (envKeys.eraseIdx 2).map Prod.snd, "EMAIL_PROVIDER" ∉ writes := by
    decide +kernel
  constructor
  · have hfield := List.mem_map_of_mem (f := Field.creates) hmem
    rw [hcreates] at hfield
    exact List.eq_of_mem_replicate hfield
  · have hfield := List.mem_map_of_mem (f := Field.writes) hmem
    rw [hwrites] at hfield
    exact hnone _ hfield

/-- The fields set the provider, and no other key is new. -/
theorem provider_of_runAll {values found : Dict String} (h : runAll envFields values = .ok found) :
    ∃ provider, providerValue (values.get? "EMAIL_PROVIDER") = .ok (some provider) ∧
      found.map Prod.fst = (values.set "EMAIL_PROVIDER" provider).map Prod.fst ∧
      found.get? "EMAIL_PROVIDER" = some provider := by
  obtain ⟨before, hbefore, hrest⟩ := runAll_append_eq_ok.mp h
  obtain ⟨set, hset, hafter⟩ := runAll_cons_eq_ok.mp hrest
  rw [providerField_run] at hset
  obtain ⟨provider, hprovider, rfl⟩ := normalizeEmailProvider_eq_ok hset
  have hothers : ∀ field ∈ fieldsBefore, field.creates = [] ∧ "EMAIL_PROVIDER" ∉ field.writes :=
    fun field hmem => envFields_others (List.mem_append_left _ hmem)
  have hothers' : ∀ field ∈ fieldsAfter, field.creates = [] ∧ "EMAIL_PROVIDER" ∉ field.writes :=
    fun field hmem => envFields_others (List.mem_append_right _ hmem)
  have hkeys := keys_runAll (fun field hmem => (hothers field hmem).1) hbefore
  have hget := get?_runAll (fun field hmem => (hothers field hmem).2) hbefore
  refine ⟨provider, ?_, ?_, ?_⟩
  · rw [← hget]
    exact hprovider
  · rw [keys_runAll (fun field hmem => (hothers' field hmem).1) hafter, Dict.keys_set, Dict.keys_set,
      hkeys]
  · rw [get?_runAll (fun field hmem => (hothers' field hmem).2) hafter, Dict.get?_set, if_pos rfl]

theorem required_of_fixed {values : Dict String}
    (h : ∀ field ∈ envFields, field.run values = .ok values) :
    ∀ key ∈ requiredTextFields, strippedValue values key ≠ "" :=
  have hrequired : checkPass validateRequiredTextFields values = .ok values :=
    h requiredField List.mem_cons_self
  validateRequiredTextFields_eq_ok.mp (checkPass_eq_ok.mp hrequired).1

theorem prepared_of_validateValues {values values' : Dict String}
    (hvalues : ∀ kv ∈ values, ValueText kv.2) (h : validateValues values = .ok values') :
    Prepared values values' := by
  rw [validateValues_eq, bind_eq_ok] at h
  obtain ⟨found, hrun, hlog⟩ := h
  have hfixed := runAll_fixed envFields_ordered hrun
  have hfound : ∀ kv ∈ found, ValueText kv.2 := forall_runAll (fun _ h => h.toValueText) hvalues hrun
  obtain ⟨level, hlevel, rfl⟩ := upperLogLevel_eq_ok.mp hlog
  have htext : ValueText level := hfound _ (Dict.mem_of_get? hlevel)
  have hnonblank : level ≠ "" := by
    have hrequired := required_of_fixed hfixed "LOG_LEVEL" (by decide)
    unfold strippedValue at hrequired
    rwa [hlevel, Option.getD_some, htext.stripped] at hrequired
  have hupper : NormalValue (upper level) := normalValue_upper ⟨htext, hnonblank⟩
  have hneeds : ∀ field ∈ envFields, "LOG_LEVEL" ∉ field.needs := by
    intro field hmem
    have hlist : ∀ keys ∈ envKeys, "LOG_LEVEL" ∉ keys.1 := by decide +kernel
    refine hlist (field.needs, field.writes) ?_
    rw [← envFields_keys]
    exact List.mem_map_of_mem hmem
  obtain ⟨provider, hprovider, hkeys, hget⟩ := provider_of_runAll hrun
  have hthere : "LOG_LEVEL" ∈ found.map Prod.fst := Dict.mem_keys_iff.mpr (by rw [hlevel]; rfl)
  refine ⟨?_, ?_, ?_, ?_, ?_⟩
  · intro kv hkv
    rcases Dict.mem_set hkv with hkv | rfl
    · exact hfound kv hkv
    · exact hupper.toValueText
  · exact fun field hmem => field.stable (hneeds field hmem) hupper (hfixed field hmem)
  · have hset : (found.set "LOG_LEVEL" (upper level)).get? "LOG_LEVEL" = some (upper level) := by
      rw [Dict.get?_set, if_pos rfl]
    refine upperLogLevel_eq_ok.mpr ⟨upper level, hset, ?_⟩
    rw [upper_upper, Dict.set_eq_self hset]
  · rw [Dict.keys_set_of_mem hthere, hkeys, Dict.keys_set]
  · intro hnew
    rw [Dict.get?_eq_none_iff.mpr hnew] at hprovider
    have hsmtp : providerValue none = .ok (some "SMTP") :=
      providerValue_of_mem (by decide : "SMTP" ∈ validEmailProviders)
    rw [hsmtp] at hprovider
    rw [Dict.get?_set, if_neg (by decide), hget, Option.some.inj (Except.ok.inj hprovider)]

/-! ## Reading it again -/

/-- **What was written is prepared to the same values**: the provider, if it was not in the file, is
    put back. -/
theorem validateValues_reread {values values' reread : Dict String} (h : Prepared values values')
    (hnodup : (values.map Prod.fst).Nodup) (hkeys : reread.map Prod.fst = values.map Prod.fst)
    (hget : ∀ key ∈ values.map Prod.fst, reread.get? key = values'.get? key) :
    validateValues reread = .ok values' := by
  have hagree : ∀ key, key ≠ "EMAIL_PROVIDER" → values'.get? key = reread.get? key := by
    intro key hne
    by_cases hkey : key ∈ values.map Prod.fst
    · exact (hget key hkey).symm
    · have hold : key ∉ reread.map Prod.fst := by rwa [hkeys]
      have hnew : key ∉ values'.map Prod.fst := by
        rw [h.keys]
        split
        · exact hkey
        · exact fun hmem => (List.mem_append.mp hmem).elim hkey fun hmem => hne (List.mem_singleton.mp hmem)
      rw [Dict.get?_eq_none_iff.mpr hold, Dict.get?_eq_none_iff.mpr hnew]
  have hbefore : ∀ field ∈ fieldsBefore, field.run reread = .ok reread := by
    intro field hmem
    have hreads : ∀ reads ∈ [requiredTextFields, ["ENVIRONMENT"]], "EMAIL_PROVIDER" ∉ reads := by decide
    have hread : field.reads ∈ [requiredTextFields, ["ENVIRONMENT"]] :=
      List.mem_map_of_mem (f := Field.reads) hmem
    refine field.frame (fun key hkey => hagree key ?_) (h.fixed field (List.mem_append_left _ hmem))
    rintro rfl
    exact hreads _ hread hkey
  have hfixed := h.fixed providerField (List.mem_append_right _ List.mem_cons_self)
  rw [providerField_run] at hfixed
  obtain ⟨provider, hprovider, hsame⟩ := normalizeEmailProvider_eq_ok hfixed
  have hvalue : values'.get? "EMAIL_PROVIDER" = some provider := by
    rw [hsame, Dict.get?_set, if_pos rfl]
  have hgiven : providerValue (reread.get? "EMAIL_PROVIDER") = .ok (some provider) := by
    by_cases hkey : "EMAIL_PROVIDER" ∈ values.map Prod.fst
    · rw [hget _ hkey]
      exact hprovider
    · have hnone : reread.get? "EMAIL_PROVIDER" = none := Dict.get?_eq_none_iff.mpr (by rwa [hkeys])
      rw [h.provider hkey] at hprovider
      rw [hnone]
      exact hprovider
  have hset : reread.set "EMAIL_PROVIDER" provider = values' := by
    refine Dict.ext (Dict.nodup_keys_set (hkeys ▸ hnodup) _ _) ?_ fun key _ => ?_
    · rw [Dict.keys_set, hkeys, h.keys]
    · rw [Dict.get?_set]
      by_cases hkey : "EMAIL_PROVIDER" = key
      · rw [if_pos hkey, ← hkey, hvalue]
      · rw [if_neg hkey, hagree key (Ne.symm hkey)]
  have hput : providerField.run reread = .ok values' := by
    rw [providerField_run, normalizeEmailProvider_eq_keyPass, keyPass_eq_ok]
    exact Or.inr ⟨provider, hgiven, hset.symm⟩
  have hafter : runAll fieldsAfter values' = .ok values' :=
    runAll_of_fixed fun field hmem => h.fixed field (List.mem_append_right _ (List.mem_cons_of_mem _ hmem))
  have hrun : runAll envFields reread = .ok values' :=
    runAll_append_eq_ok.mpr ⟨reread, runAll_of_fixed hbefore,
      runAll_cons_eq_ok.mpr ⟨values', hput, hafter⟩⟩
  rw [validateValues_eq, hrun, ok_bind, h.logLevel]

/-! ## The file -/

/-- An empty file is refused. -/
theorem linesOf_ne_nil {text : String} {values' : Dict String}
    (h : validateValues (Dict.update [] (pairsOf text)) = .ok values') : linesOf text ≠ [] := by
  intro hnil
  have hrequired : validateRequiredTextFields [] = .ok () := by
    have hempty : Dict.update [] (pairsOf text) = [] := by
      unfold pairsOf
      rw [hnil]
      rfl
    unfold validateValues at h
    rw [hempty, bind_eq_ok] at h
    obtain ⟨_, hrequired, -⟩ := h
    exact hrequired
  exact validateRequiredTextFields_eq_ok.mp hrequired "APP_NAME" (by decide) (by decide)

/-- **Preparing an env file is a faithful, idempotent rewrite.**  Let `values` be what is read of an
    accepted file, where the last occurrence of a key wins, and `values'` what the validation makes of
    it.  The rewritten file has the entries of the old one; both readers find the same `reread` in it,
    with the keys of the old file and the values of `values'`; the lines are the old ones, where those
    with a key have the new value and all others are as they were; and it is prepared to itself. -/
theorem prepare_env_faithful {envPath text out : String} (h : prepareEnv envPath (some text) = .ok out) :
    ∃ entries values values' reread,
      loadEnvFile envPath (some text) = .ok (entries, values) ∧
      validateValues values = .ok values' ∧
      (∀ key, values.get? key = Dict.get? (pairsOf text).reverse key) ∧
      loadEnvFile envPath (some out) = .ok (entries, reread) ∧ parseEnvFile out = reread ∧
      reread.map Prod.fst = values.map Prod.fst ∧
      (∀ key ∈ values.map Prod.fst, (values'.get? key).isSome ∧ reread.get? key = values'.get? key) ∧
      linesOf out = (linesOf text).map (rewritten values') ∧
      (∀ line, strip line = "" ∨ startsWith (strip line) "#" = true ∨ '=' ∉ line.toList →
        rewritten values' line = line) ∧
      prepareEnv envPath (some out) = .ok out := by
  unfold prepareEnv at h
  rw [loadEnvFile_eq, ok_bind, bind_eq_ok] at h
  obtain ⟨values', hvalidate, hout⟩ := h
  have hout : rewriteEnvFile ((linesOf text).map entryOf) values' = out := Except.ok.inj hout
  have hprepared := prepared_of_validateValues valueText_of_mem_update hvalidate
  have hwritable : Writable text values' := writable_of_readable hprepared.readable
  have hne := linesOf_ne_nil hvalidate
  have hread := load_rewritten envPath hwritable hne
  have hpairs := pairsOf_rewritten hwritable hne
  have hlines := linesOf_rewritten hwritable hne
  rw [hout] at hread hpairs hlines
  have hget : ∀ key ∈ (Dict.update [] (pairsOf text)).map Prod.fst, (values'.get? key).isSome ∧
      (rereadOf text values').get? key = values'.get? key := by
    intro key hkey
    have hthere : key ∈ values'.map Prod.fst := by
      rw [hprepared.keys]
      split
      · exact hkey
      · exact List.mem_append_left _ hkey
    obtain ⟨value, hvalue⟩ := Option.isSome_iff_exists.mp (Dict.mem_keys_iff.mp hthere)
    refine ⟨Dict.mem_keys_iff.mp hthere, ?_⟩
    rw [get?_rereadOf hkey, hvalue, Option.getD_some]
  have hnodup : ((Dict.update [] (pairsOf text)).map Prod.fst).Nodup :=
    Dict.nodup_keys_update (d := []) List.nodup_nil _
  have hreread : validateValues (rereadOf text values') = .ok values' :=
    validateValues_reread hprepared hnodup (keys_rereadOf text values') fun key hkey => (hget key hkey).2
  have hagain : prepareEnv envPath (some out) = .ok out := by
    unfold prepareEnv
    rw [hread, ok_bind]
    show (validateValues (rereadOf text values') >>= fun values' => _) = _
    rw [hreread, ok_bind, hout]
    rfl
  refine ⟨_, _, values', rereadOf text values', loadEnvFile_eq envPath text, hvalidate,
    get?_update_pairsOf text, hread, ?_, keys_rereadOf text values', hget, hlines,
    fun line => rewritten_raw values', hagain⟩
  rw [parseEnvFile_eq, hpairs]
  rfl

end Preparing

/-! ## A file -/

section Samples

open Sample

/-- Upper case leaves everything but the ASCII letters alone. -/
theorem toUpper_of_not_ascii {c : Char} (h : 128 ≤ c.toNat) : c.toUpper = c := by
  have hletter : ¬ (c.val ≥ 97 ∧ c.val ≤ 122) := by
    rintro ⟨-, hle⟩
    have hsmall : c.toNat ≤ 122 := UInt32.le_iff_toNat_le.mp hle
    omega
  unfold Char.toUpper
  exact dif_neg hletter

/-- What is relied on, for the ASCII characters. -/
theorem toUpper_ascii : ∀ n < 128, (isSpace (Char.ofNat n) = true →
      (Char.ofNat n).toUpper = Char.ofNat n) ∧
    (isSpace (Char.ofNat n) = false → isSpace (Char.ofNat n).toUpper = false) ∧
    (Char.ofNat n).toUpper.toUpper = (Char.ofNat n).toUpper := by
  decide +kernel

theorem toUpper_laws (c : Char) : (isSpace c = true → c.toUpper = c) ∧
    (isSpace c = false → isSpace c.toUpper = false) ∧ c.toUpper.toUpper = c.toUpper := by
  by_cases hascii : c.toNat < 128
  · have hlaws := toUpper_ascii c.toNat hascii
    rwa [Char.ofNat_toNat] at hlaws
  · have hsame := toUpper_of_not_ascii (Nat.le_of_not_lt hascii)
    rw [hsame, hsame]
    exact ⟨fun _ => rfl, id, rfl⟩

/-- Right for ASCII texts. -/
scoped instance Sample.upperCase : UpperCase where
  upperChar c := [c.toUpper]
  upperChar_space c hc := by rw [(toUpper_laws c).1 hc]
  upperChar_ne_nil c := List.cons_ne_nil _ _
  isSpace_upperChar c hc d hd := by
    rw [List.mem_singleton.mp hd]
    exact (toUpper_laws c).2.1 hc
  upperChar_idem c := by rw [List.flatMap_singleton, (toUpper_laws c).2.2]
  upperChar_ascii c _ := rfl

/-- A file with comments, a key that occurs twice, and a value with `=` and `#` in it. -/
def Sample.envLines : List String :=
  ["# deploy", "APP_NAME = Billing", "APP_VERSION=1.0.0", "ENVIRONMENT=Production", "LOG_LEVEL= info",
    "LOG_JSON=TRUE", "DATABASE_URL=postgresql://u:b@db/d", "EXPECTED_DATABASE_NAME=d",
    "EXPECTED_DATABASE_USERNAME=u", "APP_BASE_URL=https://billing", "",
    "CORS_ALLOWED_ORIGINS=https://a, https://b", "TRUSTED_HOSTS=[\"billing\", 7]",
    "JWT_ALGORITHM=HS256", "JWT_SECRET=a", "  #JWT_SECRET=b", "JWT_SECRET= c=d#e ",
    "SMTP_PORT=", "APPROVAL_TOKEN_SECRET=f", "CUSTOMER_JWT_SECRET=g", "JWT_EXPIRATION_MINUTES=+6_0"]

/-- What is read of it, line by line. -/
def Sample.envPairs : Dict String :=
  [("APP_NAME", "Billing"), ("APP_VERSION", "1.0.0"), ("ENVIRONMENT", "Production"),
    ("LOG_LEVEL", "info"), ("LOG_JSON", "TRUE"),
    ("DATABASE_URL", "postgresql://u:b@db/d"), ("EXPECTED_DATABASE_NAME", "d"),
    ("EXPECTED_DATABASE_USERNAME", "u"),
    ("APP_BASE_URL", "https://billing"), ("CORS_ALLOWED_ORIGINS", "https://a, https://b"),
    ("TRUSTED_HOSTS", "[\"billing\", 7]"), ("JWT_ALGORITHM", "HS256"), ("JWT_SECRET", "a"),
    ("JWT_SECRET", "c=d#e"), ("SMTP_PORT", ""), ("APPROVAL_TOKEN_SECRET", "f"),
    ("CUSTOMER_JWT_SECRET", "g"), ("JWT_EXPIRATION_MINUTES", "+6_0")]

/-- Its values after the validation. -/
def Sample.preparedValues : Dict String :=
  [("APP_NAME", "Billing"), ("APP_VERSION", "1.0.0"), ("ENVIRONMENT", "production"),
    ("LOG_LEVEL", "INFO"), ("LOG_JSON", "true"),
    ("DATABASE_URL", "postgresql://u:b@db/d"), ("EXPECTED_DATABASE_NAME", "d"),
    ("EXPECTED_DATABASE_USERNAME", "u"),
    ("APP_BASE_URL", "https://billing"), ("CORS_ALLOWED_ORIGINS", "[\"https://a\",\"https://b\"]"),
    ("TRUSTED_HOSTS", "[\"billing\",\"7\"]"), ("JWT_ALGORITHM", "HS256"), ("JWT_SECRET", "c=d#e"),
    ("SMTP_PORT", "587"), ("APPROVAL_TOKEN_SECRET", "f"), ("CUSTOMER_JWT_SECRET", "g"),
    ("JWT_EXPIRATION_MINUTES", "60"), ("EMAIL_PROVIDER", "SMTP")]

/-- The same file after it was prepared. -/
def Sample.preparedLines : List String :=
  ["# deploy", "APP_NAME=Billing", "APP_VERSION=1.0.0", "ENVIRONMENT=production", "LOG_LEVEL=INFO",
    "LOG_JSON=true", "DATABASE_URL=postgresql://u:b@db/d", "EXPECTED_DATABASE_NAME=d",
    "EXPECTED_DATABASE_USERNAME=u", "APP_BASE_URL=https://billing", "",
    "CORS_ALLOWED_ORIGINS=[\"https://a\",\"https://b\"]",
    "TRUSTED_HOSTS=[\"billing\",\"7\"]", "JWT_ALGORITHM=HS256", "JWT_SECRET=c=d#e", "  #JWT_SECRET=b",
    "JWT_SECRET=c=d#e", "SMTP_PORT=587", "APPROVAL_TOKEN_SECRET=f", "CUSTOMER_JWT_SECRET=g",
    "JWT_EXPIRATION_MINUTES=60"]

theorem prepared_env_file_stays :
    prepareEnv ".env" (some (joinLines envLines)) = .ok (joinLines preparedLines) ∧
      prepareEnv ".env" (some (joinLines preparedLines)) = .ok (joinLines preparedLines) := by
  have hlines : linesOf (joinLines envLines) = envLines :=
    linesOf_joinLines (by decide) (by decide +kernel)
  have hpairs : envLines.filterMap keyValueOf = envPairs := by decide +kernel
  have hvalidate : validateValues (Dict.update [] envPairs) = .ok preparedValues := by decide +kernel
  have hwritten : (envLines.map entryOf).map (entryLine preparedValues) = preparedLines := by
    decide +kernel
  have hprepare : prepareEnv ".env" (some (joinLines envLines)) = .ok (joinLines preparedLines) := by
    unfold prepareEnv
    rw [loadEnvFile_eq, ok_bind, pairsOf, hlines, hpairs]
    show (validateValues _ >>= fun values => pure (rewriteEnvFile (envLines.map entryOf) values)) = _
    rw [hvalidate, ok_bind, rewriteEnvFile, hwritten]
    rfl
  obtain ⟨_, _, _, _, -, -, -, -, -, -, -, -, -, hagain⟩ := prepare_env_faithful hprepare
  exact ⟨hprepare, hagain⟩

end Samples

end Billing
