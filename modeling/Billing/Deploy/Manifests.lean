/-
  `scripts/deploy/render_k8s_manifests.py`: the manifests of a deployment, made of the templates of
  `k8s/`, an env file and the reference of a container image.

  The script writes one file after the other and may end early (`Abort`), by a `SystemExit` with a
  message or because a file is missing; what it wrote until then stays in the output directory.
-/
import Billing.Deploy.EnvFile
import Billing.Lib.JsonText
import Mathlib.Data.List.Sort
import Mathlib.Data.String.Basic

namespace Billing

open Py

/-- How the script ends early. -/
inductive Abort where
  /-- `SystemExit(message)`. -/
  | systemExit (message : String)
  /-- `FileNotFoundError`. -/
  | fileNotFound (name : String)
  deriving DecidableEq, Repr

/-- A part of the script, over the files of the output directory. -/
abbrev Script := ExceptT Abort (StateM (Dict String))

/-- `path.write_text(content, encoding="utf-8")`. -/
def writeText (name content : String) : Script Unit := modify fun files => files.set name content

/-- `path.read_text(encoding="utf-8")`, of a directory. -/
def readText (files : Dict String) (name : String) : Except Abort String :=
  match files.get? name with
  | none => .error (.fileNotFound name)
  | some content => .ok (String.ofList (universalNewlines content.toList))

namespace Script

variable {α β : Type}

/-- What a part of the script does to the files. -/
def runOn (x : Script α) (files : Dict String) : Except Abort α × Dict String :=
  StateT.run (ExceptT.run x) files

@[simp] theorem runOn_pure (a : α) (files : Dict String) : runOn (pure a) files = (.ok a, files) := rfl

@[simp] theorem runOn_throw (abort : Abort) (files : Dict String) :
    runOn (throw abort : Script α) files = (.error abort, files) := rfl

@[simp] theorem runOn_lift (x : Except Abort α) (files : Dict String) :
    runOn (liftM x) files = (x, files) := rfl

@[simp] theorem runOn_writeText (name content : String) (files : Dict String) :
    runOn (writeText name content) files = (.ok (), files.set name content) := rfl

/-- A second part runs on the files of the first one, if this ended well. -/
theorem runOn_bind (x : Script α) (f : α → Script β) (files : Dict String) :
    runOn (x >>= f) files =
      match runOn x files with
      | (.ok a, files') => runOn (f a) files'
      | (.error abort, files') => (.error abort, files') := by
  rcases hx : runOn x files with ⟨abort | a, files'⟩
  · unfold runOn at hx ⊢
    rw [ExceptT.run_bind, StateT.run_bind, hx]
    rfl
  · unfold runOn at hx ⊢
    rw [ExceptT.run_bind, StateT.run_bind, hx]
    rfl

/-- A sequence that ended well went through its first part. -/
theorem runOn_bind_eq_ok {x : Script α} {f : α → Script β} {b : β} {files files' : Dict String} :
    runOn (x >>= f) files = (.ok b, files') ↔
      ∃ a mid, runOn x files = (.ok a, mid) ∧ runOn (f a) mid = (.ok b, files') := by
  rw [runOn_bind]
  rcases runOn x files with ⟨abort | a, mid⟩
  · constructor
    · intro h
      cases h
    · rintro ⟨a, mid', h, -⟩
      cases h
  · constructor
    · exact fun h => ⟨a, mid, rfl, h⟩
    · rintro ⟨a', mid', h, h'⟩
      cases h
      exact h'

/-- What ended well left some files. -/
theorem exists_files {x : Script α} {a : α} {files : Dict String} (h : (runOn x files).1 = .ok a) :
    ∃ files', runOn x files = (.ok a, files') := ⟨(runOn x files).2, Prod.ext h rfl⟩

end Script

/-! ## Names -/

/-- `SENSITIVE_KEYS`. -/
def sensitiveKeys : List String :=
  ["APPROVAL_TOKEN_SECRET", "APPROVAL_TOKEN_SECRET_FILE", "DATABASE_URL", "JWT_SECRET",
    "JWT_SECRET_FILE", "SMTP_PASSWORD", "SMTP_PASSWORD_FILE", "SMTP_USERNAME", "TESTMAIL_API_KEY",
    "CUSTOMER_JWT_SECRET", "CUSTOMER_JWT_SECRET_FILE", "DD_API_KEY", "MERCADO_PAGO_ACCESS_TOKEN",
    "MERCADO_PAGO_ACCESS_TOKEN_FILE", "RABBITMQ_URL"]

/-- `REQUIRED_SECRET_KEYS`. -/
def requiredSecretKeys : List String :=
  ["APPROVAL_TOKEN_SECRET", "DATABASE_URL", "JWT_SECRET", "CUSTOMER_JWT_SECRET"]

/-- `IMAGE_MANIFESTS`. -/
def imageManifests : List String := ["job-migrate.yaml", "deployment.yaml", "deployment-worker.yaml"]

/-- `STATIC_MANIFESTS`. -/
def staticManifests : List String :=
  ["namespace.yaml", "job-migrate.yaml", "deployment.yaml", "deployment-worker.yaml", "service.yaml",
    "hpa.yaml", "ingress.yaml"]

/-- `IMAGE_PLACEHOLDER`. -/
def imagePlaceholder : String := "__API_IMAGE__"

/-- `LEGACY_IMAGE_PLACEHOLDER`. -/
def legacyImagePlaceholder : String := "$\x7bAPI_IMAGE\x7d"

/-! ## The image -/

/-- `sub in text`. -/
def containsText (text sub : String) : Bool := decide (sub.toList <:+: text.toList)

/-- `re.fullmatch` of `left`, one character or more of a class, and `right`. -/
def fullmatchBetween (left right : String) (inside : Char → Bool) (value : String) : Bool :=
  let cs := value.toList
  let middle := (cs.drop left.length).take (cs.length - left.length - right.length)
  left.toList.isPrefixOf cs && right.toList.isSuffixOf cs && !middle.isEmpty && middle.all inside

/-- `IMAGE_PLACEHOLDER_PATTERNS`, matched against a whole value. -/
def imagePlaceholderPatterns : List (String → Bool) :=
  [fullmatchBetween "$\x7b" "\x7d" (· != '\x7d'), fullmatchBetween "__" "__" (· != '\n'),
    fullmatchBetween "<" ">" (· != '>')]

/-- `is_placeholder_like_image`. -/
def isPlaceholderLikeImage [UpperCase] (value : String) : Bool :=
  containsText (upper value) "PLACEHOLDER" || imagePlaceholderPatterns.any fun pattern => pattern value

/-- `normalize_image_ref`. -/
def normalizeImageRef [UpperCase] (image : String) : Except Abort String :=
  let normalized := strip image
  if normalized = "" then
    .error (.systemExit "The --image value must be a non-empty container image reference.")
  else if normalized.toList.any isSpace then
    .error (.systemExit "The --image value must not contain whitespace.")
  else if isPlaceholderLikeImage normalized then
    .error (.systemExit
      "The --image value must be a rendered container image reference, not a placeholder.")
  else .ok normalized

/-- What an `image:` field of a line holds. -/
def imageOfLine (line : List Char) : Option String :=
  let stripped := stripChars line
  if "image:".toList.isPrefixOf stripped then
    some (String.ofList (stripChars ((partition ':' stripped).2.getD [])))
  else none

/-- `extract_image_values`. -/
def extractImageValues (content : String) : List String :=
  (splitLines content.toList).filterMap imageOfLine

/-- One turn of the last loop of `validate_rendered_manifest_images`. -/
def validateImageValue [UpperCase] (name imageValue : String) : Except Abort Unit :=
  if imageValue = "" then
    .error (.systemExit ("Rendered manifest " ++ name ++ " contains an empty image field."))
  else if isPlaceholderLikeImage imageValue then
    .error (.systemExit ("Rendered manifest " ++ name ++ " still contains an unresolved image value: " ++
      imageValue))
  else .ok ()

/-- `validate_rendered_manifest_images`, of a content that was read. -/
def validateRenderedManifestImages [UpperCase] (name content : String) : Except Abort Unit :=
  if [imagePlaceholder, legacyImagePlaceholder].any (containsText content) then
    .error (.systemExit ("Rendered manifest " ++ name ++
      " still contains an unresolved image placeholder."))
  else if extractImageValues content = [] then
    .error (.systemExit ("Rendered manifest " ++ name ++ " does not contain an image field."))
  else (extractImageValues content).forM (validateImageValue name)

/-! ## The manifests -/

/-- The two replacements of the namespace in `render_static_manifests`. -/
def replaceNamespace (content ns : String) : String :=
  replaceTextOnce (replaceText content "namespace: service-order" ("namespace: " ++ ns))
    "name: service-order\n" ("name: " ++ ns ++ "\n")

/-- The two replacements of the image in `render_static_manifests`. -/
def replaceImage (content image : String) : String :=
  replaceText (replaceText content imagePlaceholder image) legacyImagePlaceholder image

/-- One turn of the loop of `render_static_manifests`. -/
def renderStaticManifest [UpperCase] (sourceDir : Dict String) (ns image manifestName : String) :
    Script Unit := do
  let content ← readText sourceDir manifestName
  writeText manifestName (replaceImage (replaceNamespace content ns) image)
  if manifestName ∈ imageManifests then
    validateRenderedManifestImages manifestName (← readText (← get) manifestName)

/-- `render_static_manifests`. -/
def renderStaticManifests [UpperCase] (sourceDir : Dict String) (ns image : String) : Script Unit :=
  staticManifests.forM (renderStaticManifest sourceDir ns image)

/-- `yaml_quote`. -/
def yamlQuote (value : String) : String := Json.dumps (.str value)

/-- `sorted(keys)`. -/
def sortedKeys (keys : List String) : List String := keys.insertionSort (· ≤ ·)

/-- The lines of `write_manifest` before the section. -/
def manifestHeader (kind name ns : String) : List String :=
  ["apiVersion: v1", "kind: " ++ kind, "metadata:", "  name: " ++ name, "  namespace: " ++ ns] ++
    if kind = "Secret" then ["type: Opaque"] else []

/-- The lines that `write_manifest` writes. -/
def manifestLines (kind name ns sectionName : String) (values : Dict String) : List String :=
  manifestHeader kind name ns ++ [sectionName ++ ":"] ++
    (sortedKeys (values.map Prod.fst)).map fun key =>
      "  " ++ key ++ ": " ++ yamlQuote ((values.get? key).getD "")

/-- `write_manifest`. -/
def writeManifest (path kind name ns sectionName : String) (values : Dict String) : Script Unit :=
  writeText path (joinLines (manifestLines kind name ns sectionName values))

/-! ## The script -/

/-- `values.setdefault("EMAIL_PROVIDER", "NOOP")` and `values["MIGRATE_ON_STARTUP"] = "false"`. -/
def deployedValues (values : Dict String) : Dict String :=
  (if (values.get? "EMAIL_PROVIDER").isSome then values else values.set "EMAIL_PROVIDER" "NOOP").set
    "MIGRATE_ON_STARTUP" "false"

/-- `secret_values`. -/
def secretValues (values : Dict String) : Dict String :=
  values.filter fun (key, value) => decide (key ∈ sensitiveKeys ∧ strip value ≠ "")

/-- `config_values`. -/
def configValues (values : Dict String) : Dict String :=
  values.filter fun (key, value) => decide (key ∉ sensitiveKeys ∧ strip value ≠ "")

/-- `missing_secret_keys`. -/
def missingSecretKeys (values : Dict String) : List String :=
  sortedKeys (requiredSecretKeys.filter fun key => decide (key ∉ (secretValues values).map Prod.fst))

/-- **`main`**, of the templates in `k8s/`, the env file, if it is there, and the arguments. -/
def renderManifests [UpperCase] (sourceDir : Dict String) (envFile : Option String)
    (ns image : String) : Script Unit := do
  let image ← normalizeImageRef image
  let some text := envFile | throw (.fileNotFound "--env-file")
  let values := deployedValues (parseEnvFile text)
  if missingSecretKeys values ≠ [] then
    throw (.systemExit ("Missing required secret keys in env file: " ++
      ", ".intercalate (missingSecretKeys values)))
  renderStaticManifests sourceDir ns image
  writeManifest "configmap.rendered.yaml" "ConfigMap" "service-order-billing-service-config" ns "data"
    (configValues values)
  writeManifest "secret.rendered.yaml" "Secret" "service-order-billing-service-secret" ns "stringData"
    (secretValues values)

end Billing
