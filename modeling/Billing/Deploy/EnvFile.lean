/-
  Env files, as the two deploy scripts read and write them.

  `load_env_file` and `rewrite_env_file` are those of `scripts/deploy/prepare_env.py`, which keeps every
  line of the file: a line with a key by its key, any other one as it is.  `parse_env_file` is that of
  `scripts/deploy/render_k8s_manifests.py`, which only wants the values.
-/
import Billing.Infrastructure.DatabaseUrl
import Billing.Lib.Dict
import Billing.Lib.PyLines

namespace Billing

open Py

/-- What is kept of a line. -/
inductive EnvEntry where
  /-- `("raw", line)`. -/
  | raw (content : String)
  /-- `("kv", key)`. -/
  | kv (content : String)
  deriving DecidableEq, Repr

/-- The key and the value of a line; a blank line, a comment and a line without `=` have none. -/
def keyValueOf (rawLine : String) : Option (String × String) :=
  let stripped := strip rawLine
  if stripped = "" ∨ startsWith stripped "#" ∨ '=' ∉ rawLine.toList then none
  else
    let (key, value) := partition '=' rawLine.toList
    some (strip (String.ofList key), strip (String.ofList (value.getD [])))

/-- One turn of the loop of `load_env_file`. -/
def loadLine (state : List EnvEntry × Dict String) (rawLine : String) :
    List EnvEntry × Dict String :=
  let (entries, values) := state
  match keyValueOf rawLine with
  | none => (entries ++ [.raw rawLine], values)
  | some (key, value) => (entries ++ [.kv key], values.set key value)

/-- `load_env_file`, of a file that is there or not. -/
def loadEnvFile (envPath : String) : Option String → Except Exc (List EnvEntry × Dict String)
  | none => .error (.valueError ("Missing env file: " ++ envPath))
  | some text => .ok ((linesOf text).foldl loadLine ([], []))

/-- `parse_env_file`. -/
def parseEnvFile (text : String) : Dict String :=
  (linesOf text).foldl (fun values rawLine =>
    match keyValueOf rawLine with
    | none => values
    | some (key, value) => values.set key value) []

/-- The line that `rewrite_env_file` writes for an entry. -/
def entryLine (values : Dict String) : EnvEntry → String
  | .raw content => content
  | .kv content => content ++ "=" ++ (values.get? content).getD ""

/-- `rewrite_env_file`: the text that is written. -/
def rewriteEnvFile (entries : List EnvEntry) (values : Dict String) : String :=
  joinLines (entries.map (entryLine values))

example : parseEnvFile "A = 1\n#B=2\nA=x=y \n" = [("A", "x=y")] := by decide +kernel

end Billing
