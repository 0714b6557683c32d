/-
  What the rendered manifests hold.

  Whoever applies a manifest reads a line for each key: two spaces, the key, a colon, and the value in
  quotes (`sectionOf`).  A key without a colon and any value whatever are read back from the line that
  is written for them, so a section holds the mapping it was written from (`sectionOf_manifestLines`).

  `manifests_faithful` is the whole script: what it takes for a run to end well, and what is then in the
  ConfigMap and in the Secret.
-/
import Billing.Deploy.Manifests
import Billing.Proofs.PreparedEnv

namespace Billing

open Py Passes Field

/-! ## The line of a key -/

/-- A key that can stand in a line of its own. -/
structure LineKey (key : String) : Prop where
  noColon : ':' ∉ key.toList
  oneLine : OneLine key.toList

/-- The line of a key. -/
def lineFor (key value : String) : String := "  " ++ key ++ ": " ++ yamlQuote value

theorem toList_lineFor (key value : String) : (lineFor key value).toList =
    ' ' :: ' ' :: (key.toList ++ ':' :: ' ' :: (yamlQuote value).toList) := by
  unfold lineFor
  rw [String.toList_append, String.toList_append, String.toList_append, List.append_assoc,
    List.append_assoc]
  rfl

theorem oneLine_lineFor {key : String} (hkey : LineKey key) (value : String) :
    OneLine (lineFor key value).toList := by
  have hquote : OneLine (yamlQuote value).toList := by
    intro c hc
    have hprintable := Json.printable_dumpText value c (by
      have hchars : (yamlQuote value).toList = Json.dumpText value := by
        show (String.ofList (Json.dumpChars (.str value))).toList = _
        rw [String.toList_ofList, Json.dumpChars]
      rwa [hchars] at hc)
    simp only [isLineBreak, Bool.or_eq_false_iff, Bool.and_eq_false_iff, decide_eq_false_iff_not,
      beq_eq_false_iff_ne]
    omega
  rw [toList_lineFor]
  intro c hc
  rcases List.mem_cons.mp hc with rfl | hc
  · rfl
  rcases List.mem_cons.mp hc with rfl | hc
  · rfl
  rcases List.mem_append.mp hc with hc | hc
  · exact hkey.oneLine c hc
  rcases List.mem_cons.mp hc with rfl | hc
  · rfl
  rcases List.mem_cons.mp hc with rfl | hc
  · rfl
  · exact hquote c hc

/-! ## The keys in their order -/

theorem sortedKeys_perm (keys : List String) : (sortedKeys keys).Perm keys := List.perm_insertionSort _ keys

theorem mem_sortedKeys {keys : List String} {key : String} : key ∈ sortedKeys keys ↔ key ∈ keys :=
  (sortedKeys_perm keys).mem_iff

/-- Distinct keys are in a strict order. -/
theorem sortedKeys_strict {keys : List String} (hnodup : keys.Nodup) :
    (sortedKeys keys).Pairwise (· < ·) := by
  have hle : (sortedKeys keys).Pairwise (· ≤ ·) := List.pairwise_insertionSort _ keys
  have hne : (sortedKeys keys).Nodup := (sortedKeys_perm keys).nodup_iff.mpr hnodup
  exact (hle.and hne).imp fun h => lt_of_le_of_ne h.1 h.2

/-- A mapping in the order of its keys. -/
def sortedDict (values : Dict String) : Dict String :=
  (sortedKeys (values.map Prod.fst)).map fun key => (key, (values.get? key).getD "")

/-- A mapping that is written from its keys, in whatever order. -/
theorem get?_ofKeys {keys : List String} {values : Dict String}
    (hkeys : ∀ key, key ∈ keys ↔ key ∈ values.map Prod.fst) (key : String) :
    Dict.get? (keys.map fun key => (key, (values.get? key).getD "")) key = values.get? key := by
  rw [Dict.get?_keys]
  cases hget : values.get? key with
  | none =>
    have hnot := Dict.get?_eq_none_iff.mp hget
    rw [if_neg fun h => hnot ((hkeys key).mp h)]
  | some value =>
    have hmem := Dict.mem_keys_iff.mpr (by rw [hget]; rfl : (values.get? key).isSome = true)
    rw [if_pos ((hkeys key).mpr hmem)]
    rfl

theorem get?_sortedDict (values : Dict String) (key : String) :
    (sortedDict values).get? key = values.get? key :=
  get?_ofKeys (fun _ => mem_sortedKeys) key

theorem get?_reverse_sortedDict (values : Dict String) (key : String) :
    Dict.get? (sortedDict values).reverse key = values.get? key := by
  unfold sortedDict
  rw [← List.map_reverse]
  exact get?_ofKeys (fun _ => List.mem_reverse.trans mem_sortedKeys) key

theorem keys_sortedDict (values : Dict String) :
    (sortedDict values).map Prod.fst = sortedKeys (values.map Prod.fst) := by
  unfold sortedDict
  rw [List.map_map]
  exact List.map_id _

/-! ## Reading a manifest -/

section Reading

variable [Python]

/-- The key and the value of a line. -/
def entryOfLine (line : String) : Option (String × String) :=
  match line.toList with
  | ' ' :: ' ' :: rest =>
    match partition ':' rest with
    | (key, some (' ' :: value)) =>
      match Json.loads (String.ofList value) with
      | some (.str text) => some (String.ofList key, text)
      | _ => none
    | _ => none
  | _ => none

/-- What a section at the end of a manifest holds. -/
def sectionOf (sectionName text : String) : Option (Dict String) :=
  (((linesOf text).dropWhile fun line => line != sectionName ++ ":").drop 1).mapM entryOfLine

/-- **A line is read back**, whatever its value is. -/
theorem entryOfLine_lineFor {key : String} (hkey : LineKey key) (value : String) :
    entryOfLine (lineFor key value) = some (key, value) := by
  have hvalue : Json.loads (yamlQuote value) = some (.str value) := Json.loads_dumps (.str value)
  unfold entryOfLine
  rw [toList_lineFor]
  simp only [partition_append hkey.noColon, String.ofList_toList, hvalue]

/-- **A section holds the mapping that it was written from.** -/
theorem sectionOf_manifestLines {kind name ns sectionName : String} {values : Dict String}
    (hkeys : ∀ key ∈ values.map Prod.fst, LineKey key)
    (hsection : OneLine (sectionName ++ ":").toList)
    (hheader : ∀ line ∈ manifestHeader kind name ns, OneLine line.toList ∧ line ≠ sectionName ++ ":") :
    sectionOf sectionName (joinLines (manifestLines kind name ns sectionName values)) =
      some (sortedDict values) := by
  have hkeys' : ∀ key ∈ sortedKeys (values.map Prod.fst), LineKey key :=
    fun key hkey => hkeys key (mem_sortedKeys.mp hkey)
  have hlines : linesOf (joinLines (manifestLines kind name ns sectionName values)) =
      manifestLines kind name ns sectionName values := by
    refine linesOf_joinLines (by simp [manifestLines]) fun line hline => ?_
    rcases List.mem_append.mp hline with hline | hline
    · rcases List.mem_append.mp hline with hline | hline
      · exact (hheader line hline).1
      · rw [List.mem_singleton.mp hline]
        exact hsection
    · obtain ⟨key, hkey, rfl⟩ := List.mem_map.mp hline
      exact oneLine_lineFor (hkeys' key hkey) _
  have hdrop : (manifestLines kind name ns sectionName values).dropWhile
      (fun line => line != sectionName ++ ":") = (sectionName ++ ":") ::
        (sortedKeys (values.map Prod.fst)).map fun key => lineFor key ((values.get? key).getD "") := by
    unfold manifestLines
    rw [List.append_assoc, List.dropWhile_append_of_pos fun line hline =>
      bne_iff_ne.mpr (hheader line hline).2]
    exact List.dropWhile_cons_of_neg (by rw [bne_self_eq_false]; exact Bool.false_ne_true)
  unfold sectionOf sortedDict
  rw [hlines, hdrop, List.drop_one, List.tail_cons]
  generalize sortedKeys (values.map Prod.fst) = keys at hkeys'
  induction keys with
  | nil => rfl
  | cons key keys ih =>
    rw [List.map_cons, List.mapM_cons, entryOfLine_lineFor (hkeys' key List.mem_cons_self),
      ih fun k hk => hkeys' k (List.mem_cons_of_mem _ hk)]
    rfl

end Reading

/-- The environment of a container, whose `envFrom` names the ConfigMap and then the Secret: where both
    have a key, the later one counts. -/
def containerEnvironment (config secret : Dict String) : Dict String := config.update secret

/-! ## The values of a deployment -/

/-- **What a deployment gives a key**, said of the lines of the env file: its last occurrence, unless
    the script knows better; an empty value is none. -/
def deployedValue (text key : String) : Option String :=
  let given := Dict.get? (pairsOf text).reverse key
  (if key = "MIGRATE_ON_STARTUP" then some "false"
    else if key = "EMAIL_PROVIDER" then some (given.getD "NOOP")
    else given).filter fun value => decide (value ≠ "")

theorem nodup_parseEnvFile (text : String) : ((parseEnvFile text).map Prod.fst).Nodup := by
  rw [parseEnvFile_eq]
  exact Dict.nodup_keys_update (d := []) List.nodup_nil _

theorem get?_deployedValues (values : Dict String) (key : String) :
    (deployedValues values).get? key =
      if key = "MIGRATE_ON_STARTUP" then some "false"
      else if key = "EMAIL_PROVIDER" then some ((values.get? key).getD "NOOP")
      else values.get? key := by
  unfold deployedValues
  rw [Dict.get?_set]
  by_cases hmigrate : key = "MIGRATE_ON_STARTUP"
  · rw [if_pos hmigrate, if_pos hmigrate.symm]
  rw [if_neg hmigrate, if_neg (Ne.symm hmigrate)]
  by_cases hprovider : key = "EMAIL_PROVIDER"
  · rw [if_pos hprovider, hprovider]
    cases hget : values.get? "EMAIL_PROVIDER" with
    | none =>
      show Dict.get? (values.set "EMAIL_PROVIDER" "NOOP") "EMAIL_PROVIDER" = _
      rw [Dict.get?_set, if_pos rfl]
      rfl
    | some value => exact hget
  · rw [if_neg hprovider]
    cases values.get? "EMAIL_PROVIDER" with
    | none =>
      show Dict.get? (values.set "EMAIL_PROVIDER" "NOOP") key = _
      rw [Dict.get?_set, if_neg (Ne.symm hprovider)]
    | some value => rfl

theorem keys_deployedValues {values : Dict String} {key : String}
    (h : key ∈ (deployedValues values).map Prod.fst) :
    key ∈ values.map Prod.fst ∨ key = "EMAIL_PROVIDER" ∨ key = "MIGRATE_ON_STARTUP" := by
  rw [Dict.mem_keys_iff, get?_deployedValues] at h
  by_cases hmigrate : key = "MIGRATE_ON_STARTUP"
  · exact Or.inr (Or.inr hmigrate)
  by_cases hprovider : key = "EMAIL_PROVIDER"
  · exact Or.inr (Or.inl hprovider)
  · rw [if_neg hmigrate, if_neg hprovider] at h
    exact Or.inl (Dict.mem_keys_iff.mpr h)

theorem nodup_deployedValues {values : Dict String} (h : (values.map Prod.fst).Nodup) :
    ((deployedValues values).map Prod.fst).Nodup := by
  unfold deployedValues
  refine Dict.nodup_keys_set ?_ _ _
  split
  · exact h
  · exact Dict.nodup_keys_set h _ _

/-- What was read is stripped, so a blank value is an empty one. -/
theorem strip_deployedValue {text key value : String}
    (h : (deployedValues (parseEnvFile text)).get? key = some value) : strip value = value := by
  have hread : ∀ {v}, (parseEnvFile text).get? key = some v → strip v = v := by
    intro v hv
    rw [parseEnvFile_eq] at hv
    exact (valueText_of_mem_update _ (Dict.mem_of_get? hv)).stripped
  rw [get?_deployedValues] at h
  split at h
  · rw [← Option.some.inj h]
    decide
  split at h
  · rw [← Option.some.inj h]
    cases hv : (parseEnvFile text).get? key with
    | none => decide
    | some v => exact hread hv
  · exact hread h

/-- What is left of the values for one of the two manifests. -/
theorem get?_deployed (text : String) (keep : String → Prop) [DecidablePred keep] (key : String) :
    Dict.get? ((deployedValues (parseEnvFile text)).filter fun (key, value) =>
        decide (keep key ∧ strip value ≠ "")) key =
      if keep key then deployedValue text key else none := by
  have hvalue : deployedValue text key = ((deployedValues (parseEnvFile text)).get? key).filter
      fun value => decide (value ≠ "") := by
    rw [get?_deployedValues, parseEnvFile_eq, get?_update_pairsOf]
    rfl
  rw [Dict.get?_filter (nodup_deployedValues (nodup_parseEnvFile text)), hvalue]
  cases hget : (deployedValues (parseEnvFile text)).get? key with
  | none =>
    rw [Option.filter_none, Option.filter_none]
    split <;> rfl
  | some value =>
    rw [Option.filter_some, Option.filter_some]
    show (if decide (keep key ∧ strip value ≠ "") = true then some value else none) = _
    rw [strip_deployedValue hget]
    by_cases hkeep : keep key
    · simp [hkeep]
    · simp [hkeep]

/-! ## The script -/

section Rendering

variable [UpperCase] {sourceDir files files' : Dict String} {envFile : Option String}
  {text ns image : String}

/-- The text of the ConfigMap. -/
def configMapText (ns : String) (values : Dict String) : String :=
  joinLines (manifestLines "ConfigMap" "service-order-billing-service-config" ns "data"
    (configValues values))

/-- The text of the Secret. -/
def secretText (ns : String) (values : Dict String) : String :=
  joinLines (manifestLines "Secret" "service-order-billing-service-secret" ns "stringData"
    (secretValues values))

/-- The message about the keys that are missing. -/
def missingSecrets (keys : List String) : Abort :=
  .systemExit ("Missing required secret keys in env file: " ++ ", ".intercalate keys)

/-- After the image was accepted, the secrets decide. -/
theorem runOn_renderManifests {ref : String} (himage : normalizeImageRef image = .ok ref) :
    (renderManifests sourceDir (some text) ns image).runOn files =
      if missingSecretKeys (deployedValues (parseEnvFile text)) = [] then
        Script.runOn (do
          renderStaticManifests sourceDir ns ref
          writeText "configmap.rendered.yaml" (configMapText ns (deployedValues (parseEnvFile text)))
          writeText "secret.rendered.yaml" (secretText ns (deployedValues (parseEnvFile text)))) files
      else (.error (missingSecrets (missingSecretKeys (deployedValues (parseEnvFile text)))), files) := by
  have haccepted : Script.runOn (liftM (normalizeImageRef image)) files = (.ok ref, files) := by
    rw [Script.runOn_lift, himage]
  unfold renderManifests
  rw [Script.runOn_bind, haccepted]
  by_cases hmissing : missingSecretKeys (deployedValues (parseEnvFile text)) = []
  · rw [if_pos hmissing]
    simp only [hmissing, ne_eq, not_true_eq_false, if_false]
    rfl
  · rw [if_neg hmissing]
    simp only [ne_eq, hmissing, not_false_eq_true, if_true]
    rfl

/-- **When the script ends well**, and what it has written then. -/
theorem renderManifests_eq_ok : (renderManifests sourceDir envFile ns image).runOn files = (.ok (), files') ↔
    ∃ ref text mid, normalizeImageRef image = .ok ref ∧ envFile = some text ∧
      missingSecretKeys (deployedValues (parseEnvFile text)) = [] ∧
      (renderStaticManifests sourceDir ns ref).runOn files = (.ok (), mid) ∧
      files' = (mid.set "configmap.rendered.yaml"
        (configMapText ns (deployedValues (parseEnvFile text)))).set "secret.rendered.yaml"
          (secretText ns (deployedValues (parseEnvFile text))) := by
  constructor
  · intro h
    cases himage : normalizeImageRef image with
    | error abort =>
      unfold renderManifests at h
      rw [Script.runOn_bind, Script.runOn_lift, himage] at h
      cases h
    | ok ref =>
      cases envFile with
      | none =>
        unfold renderManifests at h
        rw [Script.runOn_bind, Script.runOn_lift, himage] at h
        cases h
      | some text =>
        rw [runOn_renderManifests himage] at h
        split at h
        · rename_i hmissing
          obtain ⟨⟨⟩, mid, hstatic, h⟩ := Script.runOn_bind_eq_ok.mp h
          exact ⟨ref, text, mid, rfl, rfl, hmissing, hstatic, (Prod.mk.inj h).2.symm⟩
        · cases h
  · rintro ⟨ref, text, mid, himage, rfl, hmissing, hstatic, rfl⟩
    rw [runOn_renderManifests himage, if_pos hmissing]
    exact Script.runOn_bind_eq_ok.mpr ⟨(), mid, hstatic, rfl⟩

omit [UpperCase] in
theorem missingSecretKeys_eq_nil {values : Dict String} : missingSecretKeys values = [] ↔
    ∀ key ∈ requiredSecretKeys, key ∈ (secretValues values).map Prod.fst := by
  have hperm := sortedKeys_perm (requiredSecretKeys.filter fun key =>
    decide (key ∉ (secretValues values).map Prod.fst))
  have hnil : missingSecretKeys values = [] ↔ (requiredSecretKeys.filter fun key =>
      decide (key ∉ (secretValues values).map Prod.fst)) = [] := by
    unfold missingSecretKeys
    constructor
    · intro h
      rw [h] at hperm
      exact hperm.symm.eq_nil
    · intro h
      rw [h]
      rfl
  rw [hnil, List.filter_eq_nil_iff]
  simp only [decide_eq_true_eq, not_not]

omit [UpperCase] in
/-- The keys of a deployment stand in lines of their own. -/
theorem lineKey_of_deployed (hkeys : ∀ key ∈ (pairsOf text).map Prod.fst, ':' ∉ key.toList) {key : String}
    (h : key ∈ (deployedValues (parseEnvFile text)).map Prod.fst) : LineKey key := by
  rcases keys_deployedValues h with hkey | rfl | rfl
  · rw [parseEnvFile_eq] at hkey
    obtain ⟨kv, hkv, rfl⟩ := List.mem_map.mp hkey
    have hmem : kv ∈ pairsOf text := (Dict.mem_update hkv).resolve_left List.not_mem_nil
    exact ⟨hkeys kv.1 (List.mem_map_of_mem hmem), (keyText_of_mem_pairsOf hmem).1.oneLine⟩
  · exact ⟨by decide, by decide⟩
  · exact ⟨by decide, by decide⟩

omit [UpperCase] in
/-- The lines before the section, whose name is not indented. -/
theorem header_lines {kind name sectionName : String} (hkind : OneLine kind.toList)
    (hname : OneLine name.toList) (hns : OneLine ns.toList)
    (hsection : sectionName ++ ":" ∉ ["apiVersion: v1", "kind: " ++ kind, "metadata:", "type: Opaque"])
    (hindent : (sectionName ++ ":").toList.head? ≠ some ' ') :
    ∀ line ∈ manifestHeader kind name ns, OneLine line.toList ∧ line ≠ sectionName ++ ":" := by
  have hconcat : ∀ start rest : String, OneLine start.toList → OneLine rest.toList →
      OneLine (start ++ rest).toList := by
    intro start rest hstart hrest
    rw [String.toList_append, oneLine_append]
    exact ⟨hstart, hrest⟩
  have hindented : ∀ start rest : String, start.toList.head? = some ' ' →
      start ++ rest ≠ sectionName ++ ":" := by
    intro start rest hstart heq
    rw [← heq, String.toList_append, List.head?_append, hstart] at hindent
    exact hindent rfl
  simp only [List.mem_cons, List.not_mem_nil, or_false, not_or] at hsection
  obtain ⟨hversion, hkind', hmetadata, htype⟩ := hsection
  intro line hline
  unfold manifestHeader at hline
  rcases List.mem_append.mp hline with hline | hline
  · simp only [List.mem_cons, List.not_mem_nil, or_false] at hline
    rcases hline with rfl | rfl | rfl | rfl | rfl
    · exact ⟨by decide, Ne.symm hversion⟩
    · exact ⟨hconcat _ _ (by decide) hkind, Ne.symm hkind'⟩
    · exact ⟨by decide, Ne.symm hmetadata⟩
    · exact ⟨hconcat _ _ (by decide) hname, hindented _ _ (by decide)⟩
    · exact ⟨hconcat _ _ (by decide) hns, hindented _ _ (by decide)⟩
  · split at hline
    · rw [List.mem_singleton.mp hline]
      exact ⟨by decide, Ne.symm htype⟩
    · exact absurd hline List.not_mem_nil

omit [UpperCase] in
/-- **The sections are read back**, of every namespace that is one line and of keys without a colon. -/
theorem sectionOf_rendered [Python] (hns : OneLine ns.toList)
    (hkeys : ∀ key ∈ (pairsOf text).map Prod.fst, ':' ∉ key.toList) :
    sectionOf "data" (configMapText ns (deployedValues (parseEnvFile text))) =
        some (sortedDict (configValues (deployedValues (parseEnvFile text)))) ∧
      sectionOf "stringData" (secretText ns (deployedValues (parseEnvFile text))) =
        some (sortedDict (secretValues (deployedValues (parseEnvFile text)))) := by
  have hlines : ∀ keep : String × String → Bool,
      ∀ key ∈ ((deployedValues (parseEnvFile text)).filter keep).map Prod.fst, LineKey key :=
    fun keep key hkey => lineKey_of_deployed hkeys ((List.filter_sublist.map _).subset hkey)
  constructor
  · exact sectionOf_manifestLines (hlines _) (by decide)
      (header_lines (by decide) (by decide) hns (by decide) (by decide))
  · exact sectionOf_manifestLines (hlines _) (by decide)
      (header_lines (by decide) (by decide) hns (by decide) (by decide))

omit [UpperCase] in
/-- **What a container gets of the two sections**, whichever it reads first. -/
theorem get?_containerEnvironment (text key : String) :
    (containerEnvironment (sortedDict (configValues (deployedValues (parseEnvFile text))))
      (sortedDict (secretValues (deployedValues (parseEnvFile text))))).get? key =
        deployedValue text key := by
  have hor : ∀ value : Option String, (if key ∈ sensitiveKeys then value else none).or
      (if key ∉ sensitiveKeys then value else none) = value := by
    intro value
    by_cases hkey : key ∈ sensitiveKeys
    · rw [if_pos hkey, if_neg (not_not.mpr hkey), Option.or_none]
    · rw [if_neg hkey, if_pos hkey, Option.none_or]
  have hconfig := get?_deployed text (· ∉ sensitiveKeys) key
  have hsecret := get?_deployed text (· ∈ sensitiveKeys) key
  unfold containerEnvironment
  rw [Dict.get?_update, get?_reverse_sortedDict, get?_sortedDict]
  exact (congrArg₂ Option.or hsecret hconfig).trans (hor _)

omit [UpperCase] in
/-- The required secrets have a value when none is missing. -/
theorem isSome_required (hmissing : missingSecretKeys (deployedValues (parseEnvFile text)) = []) :
    ∀ key ∈ requiredSecretKeys, (deployedValue text key).isSome = true := by
  intro key hkey
  have hmem := Dict.mem_keys_iff.mp (missingSecretKeys_eq_nil.mp hmissing key hkey)
  have hsensitive : ∀ key ∈ requiredSecretKeys, key ∈ sensitiveKeys := by decide
  have hvalue : Dict.get? (secretValues (deployedValues (parseEnvFile text))) key =
      deployedValue text key :=
    (get?_deployed text (· ∈ sensitiveKeys) key).trans (if_pos (hsensitive key hkey))
  rwa [hvalue] at hmem

/-- **The manifests of a directory hold an env file**: the ConfigMap and the Secret are read back, each
    with its keys in strict order; the sensitive keys are in the Secret and nowhere else, the others are
    in the ConfigMap; the environment that a container gets of the two gives every key the value that the
    deployment gives it, and all required secrets are in it. -/
def ManifestsHold [Python] (text : String) (files : Dict String) : Prop :=
  ∃ configFile secretFile config secret,
    files.get? "configmap.rendered.yaml" = some configFile ∧
    files.get? "secret.rendered.yaml" = some secretFile ∧
    sectionOf "data" configFile = some config ∧ sectionOf "stringData" secretFile = some secret ∧
    (config.map Prod.fst).Pairwise (· < ·) ∧ (secret.map Prod.fst).Pairwise (· < ·) ∧
    (∀ key, config.get? key = if key ∉ sensitiveKeys then deployedValue text key else none) ∧
    (∀ key, secret.get? key = if key ∈ sensitiveKeys then deployedValue text key else none) ∧
    (∀ key, (containerEnvironment config secret).get? key = deployedValue text key) ∧
    ∀ key ∈ requiredSecretKeys, (deployedValue text key).isSome

/-- **Rendering is faithful.**  For every env file whose keys have no colon and every namespace that is
    one line: when the script ends well, the manifests hold the file. -/
theorem manifests_faithful [Python] (hns : OneLine ns.toList)
    (hkeys : ∀ key ∈ (pairsOf text).map Prod.fst, ':' ∉ key.toList)
    (h : (renderManifests sourceDir (some text) ns image).runOn files = (.ok (), files')) :
    ManifestsHold text files' := by
  obtain ⟨ref, text', mid, himage, htext, hmissing, hstatic, rfl⟩ := renderManifests_eq_ok.mp h
  cases htext
  have hnodup := nodup_deployedValues (nodup_parseEnvFile text)
  have hstrict : ∀ keep : String × String → Bool,
      ((sortedDict ((deployedValues (parseEnvFile text)).filter keep)).map Prod.fst).Pairwise (· < ·) := by
    intro keep
    rw [keys_sortedDict]
    exact sortedKeys_strict (hnodup.sublist (List.filter_sublist.map _))
  obtain ⟨hconfig, hsecret⟩ := sectionOf_rendered hns hkeys
  refine ⟨configMapText ns (deployedValues (parseEnvFile text)),
    secretText ns (deployedValues (parseEnvFile text)),
    sortedDict (configValues (deployedValues (parseEnvFile text))),
    sortedDict (secretValues (deployedValues (parseEnvFile text))), ?_, ?_, hconfig, hsecret, hstrict _,
    hstrict _, fun key => ?_, fun key => ?_, get?_containerEnvironment text, isSome_required hmissing⟩
  · rw [Dict.get?_set, if_neg (by decide), Dict.get?_set, if_pos rfl]
  · rw [Dict.get?_set, if_pos rfl]
  · rw [get?_sortedDict]
    exact get?_deployed text (· ∉ sensitiveKeys) key
  · rw [get?_sortedDict]
    exact get?_deployed text (· ∈ sensitiveKeys) key

end Rendering

/-! ## A prepared env file -/

section Prepared

variable [Python] [UrlRules] [UpperCase] {sourceDir files : Dict String}
  {envPath text out ns image ref : String}

/-- Whoever reads a prepared file finds the prepared values, but for the provider of the mails. -/
theorem Prepared.get?_reread {values values' reread : Dict String} (h : Prepared values values')
    (hkeys : reread.map Prod.fst = values.map Prod.fst)
    (hget : ∀ key ∈ values.map Prod.fst, reread.get? key = values'.get? key) {key : String}
    (hne : key ≠ "EMAIL_PROVIDER") : reread.get? key = values'.get? key := by
  by_cases hkey : key ∈ values.map Prod.fst
  · exact hget key hkey
  · have hold : key ∉ reread.map Prod.fst := by rwa [hkeys]
    have hnew : key ∉ values'.map Prod.fst := by
      rw [h.keys]
      split
      · exact hkey
      · intro hmem
        rcases List.mem_append.mp hmem with hmem | hmem
        · exact hkey hmem
        · exact hne (List.mem_singleton.mp hmem)
    rw [Dict.get?_eq_none_iff.mpr hold, Dict.get?_eq_none_iff.mpr hnew]

/-- The text of a prepared file is read as its values. -/
theorem parseEnvFile_prepared (h : prepareEnv envPath (some text) = .ok out) :
    ∃ values', Prepared (parseEnvFile text) values' ∧ validateValues (parseEnvFile text) = .ok values' ∧
      (∀ key, key ≠ "EMAIL_PROVIDER" → (parseEnvFile out).get? key = values'.get? key) ∧
      (pairsOf out).map Prod.fst = (pairsOf text).map Prod.fst := by
  unfold prepareEnv at h
  rw [loadEnvFile_eq, ok_bind, bind_eq_ok] at h
  obtain ⟨values', hvalidate, hout⟩ := h
  have hout : rewriteEnvFile ((linesOf text).map entryOf) values' = out := Except.ok.inj hout
  have hprepared := prepared_of_validateValues valueText_of_mem_update hvalidate
  have hpairs := pairsOf_rewritten (writable_of_readable hprepared.readable) (linesOf_ne_nil hvalidate)
  rw [hout] at hpairs
  have hread : parseEnvFile out = rereadOf text values' := by
    rw [parseEnvFile_eq, hpairs]
    rfl
  rw [parseEnvFile_eq text]
  have hsame : (pairsOf out).map Prod.fst = (pairsOf text).map Prod.fst := by
    rw [hpairs, List.map_map]
    rfl
  refine ⟨values', hprepared, hvalidate, fun key hne => ?_, hsame⟩
  rw [hread]
  refine hprepared.get?_reread (keys_rereadOf text values') (fun key hkey => ?_) hne
  have hthere : key ∈ values'.map Prod.fst := by
    rw [hprepared.keys]
    split
    · exact hkey
    · exact List.mem_append_left _ hkey
  obtain ⟨value, hvalue⟩ := Option.isSome_iff_exists.mp (Dict.mem_keys_iff.mp hthere)
  rw [get?_rereadOf hkey, hvalue, Option.getD_some]

omit [UrlRules] [UpperCase] [Python] in
/-- A value that can be read back is given when it is not blank. -/
theorem isSome_filter_iff {values : Dict String} {key : String} (h : ∀ kv ∈ values, ValueText kv.2) :
    ((values.get? key).filter fun value => decide (value ≠ "")).isSome = true ↔
      strippedValue values key ≠ "" := by
  unfold strippedValue
  cases hget : values.get? key with
  | none => exact ⟨fun h => (by cases h), fun h => absurd rfl h⟩
  | some value =>
    rw [Option.filter_some, Option.getD_some, (h _ (Dict.mem_of_get? hget)).stripped]
    by_cases hblank : value = ""
    · simp [hblank]
    · simp [hblank]

omit [UrlRules] [UpperCase] [Python] in
/-- The deployment of a file has its values, without those that are blank. -/
theorem deployedValue_eq {values : Dict String} {key : String}
    (hkey : key ∉ ["EMAIL_PROVIDER", "MIGRATE_ON_STARTUP"])
    (hget : (parseEnvFile text).get? key = values.get? key) :
    deployedValue text key = (values.get? key).filter fun value => decide (value ≠ "") := by
  rw [List.mem_cons, List.mem_singleton, not_or] at hkey
  rw [parseEnvFile_eq, get?_update_pairsOf] at hget
  unfold deployedValue
  simp only [if_neg hkey.1, if_neg hkey.2, hget]

/-- The secrets that a deployment has no value for. -/
def secretsByFile (text : String) : List String :=
  ["APPROVAL_TOKEN_SECRET", "CUSTOMER_JWT_SECRET", "JWT_SECRET"].filter fun key =>
    decide (deployedValue text key = none)

omit [Python] [UrlRules] [UpperCase] in
/-- With a database URL, the secrets that are missing are these. -/
theorem missingSecretKeys_eq (hurl : (deployedValue text "DATABASE_URL").isSome = true) :
    missingSecretKeys (deployedValues (parseEnvFile text)) = secretsByFile text := by
  have hmissing : ∀ key ∈ requiredSecretKeys,
      decide (key ∉ (secretValues (deployedValues (parseEnvFile text))).map Prod.fst) =
        decide (deployedValue text key = none) := by
    intro key hkey
    have hsensitive : ∀ key ∈ requiredSecretKeys, key ∈ sensitiveKeys := by decide
    have hvalue : Dict.get? (secretValues (deployedValues (parseEnvFile text))) key =
        deployedValue text key :=
      (get?_deployed text (· ∈ sensitiveKeys) key).trans (if_pos (hsensitive key hkey))
    exact decide_eq_decide.mpr (by rw [← Dict.get?_eq_none_iff, hvalue])
  have hthere : decide (deployedValue text "DATABASE_URL" = none) = false := by
    rw [decide_eq_false_iff_not]
    intro hnone
    rw [hnone] at hurl
    cases hurl
  unfold missingSecretKeys secretsByFile
  rw [List.filter_congr hmissing]
  unfold requiredSecretKeys
  simp only [List.filter_cons, List.filter_nil, hthere]
  -- which of the three are missing
  cases decide (deployedValue text "APPROVAL_TOKEN_SECRET" = none) <;>
    cases decide (deployedValue text "CUSTOMER_JWT_SECRET" = none) <;>
      cases decide (deployedValue text "JWT_SECRET" = none) <;> rfl

/-- **From a prepared file to the manifests.**  For every env file that `prepare_env` accepts, of which
    it makes `out`, and every accepted image: the deployment of `out` has the validated values, a secret
    it has no value for is given by its `*_FILE`, and when there is such a secret the script refuses the
    file, names exactly these secrets and writes nothing; otherwise it goes on to the manifests. -/
theorem prepared_file_renders (sourceDir files : Dict String) (ns : String)
    (h : prepareEnv envPath (some text) = .ok out)
    (himage : normalizeImageRef image = .ok ref) :
    ∃ values', validateValues (parseEnvFile text) = .ok values' ∧
      (∀ key ∉ ["EMAIL_PROVIDER", "MIGRATE_ON_STARTUP"],
        deployedValue out key = (values'.get? key).filter fun value => decide (value ≠ "")) ∧
      (∀ key ∈ secretsByFile out, (deployedValue out (key ++ "_FILE")).isSome) ∧
      (renderManifests sourceDir (some out) ns image).runOn files =
        if secretsByFile out = [] then
          Script.runOn (do
            renderStaticManifests sourceDir ns ref
            writeText "configmap.rendered.yaml" (configMapText ns (deployedValues (parseEnvFile out)))
            writeText "secret.rendered.yaml" (secretText ns (deployedValues (parseEnvFile out)))) files
        else (.error (missingSecrets (secretsByFile out)), files) := by
  obtain ⟨values', hprepared, hvalidate, hget, -⟩ := parseEnvFile_prepared h
  have hdeployed : ∀ key ∉ ["EMAIL_PROVIDER", "MIGRATE_ON_STARTUP"],
      deployedValue out key = (values'.get? key).filter fun value => decide (value ≠ "") :=
    fun key hkey => deployedValue_eq hkey (hget key fun heq => hkey (heq ▸ List.mem_cons_self))
  have hgiven : ∀ key ∉ ["EMAIL_PROVIDER", "MIGRATE_ON_STARTUP"],
      ((deployedValue out key).isSome = true ↔ strippedValue values' key ≠ "") := by
    intro key hkey
    rw [hdeployed key hkey]
    exact isSome_filter_iff hprepared.readable
  have hurl : (deployedValue out "DATABASE_URL").isSome = true :=
    (hgiven _ (by decide)).mpr (required_of_fixed hprepared.fixed _ (by decide))
  have hcontract : ∀ key ∈ ["APPROVAL_TOKEN_SECRET", "JWT_SECRET", "CUSTOMER_JWT_SECRET"],
      strippedValue values' key ≠ "" ∨ strippedValue values' (key ++ "_FILE") ≠ "" := by
    have hsecrets : checkPass validateSecretContract values' = .ok values' :=
      hprepared.fixed secretsField (by simp [envFields, fieldsAfter])
    exact validateSecretContract_eq_ok.mp (checkPass_eq_ok.mp hsecrets).1
  refine ⟨values', hvalidate, hdeployed, fun key hkey => ?_, ?_⟩
  · obtain ⟨hsecret, hnone⟩ := List.mem_filter.mp hkey
    have hplain : ∀ key ∈ ["APPROVAL_TOKEN_SECRET", "CUSTOMER_JWT_SECRET", "JWT_SECRET"],
        key ∈ ["APPROVAL_TOKEN_SECRET", "JWT_SECRET", "CUSTOMER_JWT_SECRET"] ∧
          key ∉ ["EMAIL_PROVIDER", "MIGRATE_ON_STARTUP"] ∧
          key ++ "_FILE" ∉ ["EMAIL_PROVIDER", "MIGRATE_ON_STARTUP"] := by decide
    obtain ⟨hkey, hother, hotherFile⟩ := hplain key hsecret
    have hblank : strippedValue values' key = "" := by
      refine Decidable.byContradiction fun hne => ?_
      have hsome := (hgiven key hother).mpr hne
      rw [of_decide_eq_true hnone] at hsome
      cases hsome
    exact (hgiven _ hotherFile).mpr ((hcontract key hkey).resolve_left fun hne => hne hblank)
  · rw [runOn_renderManifests himage, missingSecretKeys_eq hurl]

end Prepared

/-! ## Files -/

section Samples

open Sample

/-- Short templates. -/
def Sample.templates : Dict String :=
  staticManifests.map fun name => (name, "namespace: service-order\nimage: __API_IMAGE__\n")

/-- A key that occurs twice, a blank value, and values with quotes, colons and a letter outside ASCII. -/
def Sample.quotedLines : List String :=
  ["JWT_SECRET=old", "JWT_SECRET= a: \"b\\ ", "DATABASE_URL=é", "SMTP_PORT=", "CUSTOMER_JWT_SECRET=c",
    "APPROVAL_TOKEN_SECRET=d"]

/-- What is read of it, line by line. -/
def Sample.quotedPairs : Dict String :=
  [("JWT_SECRET", "old"), ("JWT_SECRET", "a: \"b\\"), ("DATABASE_URL", "é"), ("SMTP_PORT", ""),
    ("CUSTOMER_JWT_SECRET", "c"), ("APPROVAL_TOKEN_SECRET", "d")]

theorem Sample.pairsOf_quotedLines : pairsOf (joinLines quotedLines) = quotedPairs := by
  rw [pairsOf, linesOf_joinLines (by decide) (by decide +kernel)]
  decide +kernel

theorem manifests_faithful_quoted : ∃ files,
    (renderManifests templates (some (joinLines quotedLines)) "prod" " billing:1 ").runOn [] =
        (.ok (), files) ∧ ManifestsHold (joinLines quotedLines) files ∧
      deployedValue (joinLines quotedLines) "JWT_SECRET" = some "a: \"b\\" := by
  have himage : normalizeImageRef " billing:1 " = .ok "billing:1" := by decide +kernel
  have hmissing : missingSecretKeys (deployedValues (parseEnvFile (joinLines quotedLines))) = [] := by
    rw [parseEnvFile_eq, pairsOf_quotedLines]
    decide +kernel
  have hstatic : ((renderStaticManifests templates "prod" "billing:1").runOn []).1 = .ok () := by
    decide +kernel
  have hkeys : ∀ key ∈ (pairsOf (joinLines quotedLines)).map Prod.fst, ':' ∉ key.toList := by
    rw [pairsOf_quotedLines]
    decide +kernel
  obtain ⟨mid, hmid⟩ := Script.exists_files hstatic
  have hrun := renderManifests_eq_ok.mpr ⟨_, _, mid, himage, rfl, hmissing, hmid, rfl⟩
  refine ⟨_, hrun, manifests_faithful (by decide) hkeys hrun, ?_⟩
  unfold deployedValue
  rw [pairsOf_quotedLines]
  decide +kernel

/-- A prepared file whose signing secret is in a file of its own. -/
def Sample.byFileLines : List String :=
  ["APP_NAME=b", "APP_VERSION=1", "ENVIRONMENT=test", "LOG_LEVEL=INFO", "LOG_JSON=true",
    "DATABASE_URL=postgresql://u:b@db/d", "EXPECTED_DATABASE_NAME=d", "EXPECTED_DATABASE_USERNAME=u",
    "APP_BASE_URL=https://b", "CORS_ALLOWED_ORIGINS=[\"a\"]", "TRUSTED_HOSTS=[\"b\"]",
    "JWT_ALGORITHM=HS256", "JWT_SECRET_FILE=/run/jwt", "APPROVAL_TOKEN_SECRET=f", "CUSTOMER_JWT_SECRET=g"]

/-- What is read of it. -/
def Sample.byFilePairs : Dict String :=
  [("APP_NAME", "b"), ("APP_VERSION", "1"), ("ENVIRONMENT", "test"), ("LOG_LEVEL", "INFO"),
    ("LOG_JSON", "true"), ("DATABASE_URL", "postgresql://u:b@db/d"), ("EXPECTED_DATABASE_NAME", "d"),
    ("EXPECTED_DATABASE_USERNAME", "u"), ("APP_BASE_URL", "https://b"),
    ("CORS_ALLOWED_ORIGINS", "[\"a\"]"), ("TRUSTED_HOSTS", "[\"b\"]"), ("JWT_ALGORITHM", "HS256"),
    ("JWT_SECRET_FILE", "/run/jwt"), ("APPROVAL_TOKEN_SECRET", "f"), ("CUSTOMER_JWT_SECRET", "g")]

theorem prepared_file_renders_byFile :
    (renderManifests templates (some (joinLines byFileLines)) "prod" "billing:1").runOn [] =
      (.error (.systemExit "Missing required secret keys in env file: JWT_SECRET"), []) := by
  have hlines : linesOf (joinLines byFileLines) = byFileLines :=
    linesOf_joinLines (by decide) (by decide +kernel)
  have hpairs : byFileLines.filterMap keyValueOf = byFilePairs := by decide +kernel
  have hvalidate : validateValues (Dict.update [] byFilePairs) =
      .ok (byFilePairs ++ [("EMAIL_PROVIDER", "SMTP")]) := by decide +kernel
  have hwritten : (byFileLines.map entryOf).map
      (entryLine (byFilePairs ++ [("EMAIL_PROVIDER", "SMTP")])) = byFileLines := by decide +kernel
  have hprepare : prepareEnv ".env" (some (joinLines byFileLines)) = .ok (joinLines byFileLines) := by
    unfold prepareEnv
    rw [loadEnvFile_eq, ok_bind, pairsOf, hlines, hpairs]
    show (validateValues _ >>= fun values => pure (rewriteEnvFile (byFileLines.map entryOf) values)) = _
    rw [hvalidate, ok_bind, rewriteEnvFile, hwritten]
    rfl
  have himage : normalizeImageRef "billing:1" = .ok "billing:1" := by decide +kernel
  have hmissing : secretsByFile (joinLines byFileLines) = ["JWT_SECRET"] := by
    unfold secretsByFile deployedValue
    rw [pairsOf, hlines, hpairs]
    decide +kernel
  obtain ⟨-, -, -, -, hrun⟩ := prepared_file_renders templates [] "prod" hprepare himage
  rw [hrun, hmissing, if_neg (by decide)]
  rfl

end Samples

end Billing
