/-
  `urllib.parse.urlsplit` and the attributes of its result.

  The text is cleaned, its scheme, authority, fragment and query are cut off in this order, and what is
  left is the path.  The attributes of the authority are read lazily, so a bad port only raises when it
  is asked for.

  `UrlRules` holds the two functions of the interpreter that are left open: the NFKC form of a text, and
  which texts the `ipaddress` module reads as an address.
-/
import Billing.Lib.PyText

namespace Py

/-- The functions of the interpreter that are left open. -/
class UrlRules where
  /-- `unicodedata.normalize("NFKC", text)`. -/
  nfkc : List Char → List Char
  /-- `ipaddress.ip_address(text).version`, if it does not raise. -/
  ipVersion : List Char → Option Nat

/-! ## Cutting texts -/

/-- `str.partition`: what is before the first `sep`, and what is after it, if there is one. -/
def partition (sep : Char) (cs : List Char) : List Char × Option (List Char) :=
  match cs.dropWhile fun c => c != sep with
  | [] => (cs, none)
  | _ :: rest => (cs.takeWhile fun c => c != sep, some rest)

theorem partition_append {sep : Char} {before : List Char} (h : sep ∉ before) (after : List Char) :
    partition sep (before ++ sep :: after) = (before, some after) := by
  have hne : ∀ c ∈ before, (c != sep) = true := by
    intro c hc
    exact bne_iff_ne.mpr fun heq => h (heq ▸ hc)
  have hsep : ¬ (sep != sep) = true := by rw [bne_self_eq_false]; exact Bool.false_ne_true
  have hdrop : ((sep :: after).dropWhile fun c => c != sep) = sep :: after :=
    List.dropWhile_cons_of_neg hsep
  have htake : ((sep :: after).takeWhile fun c => c != sep) = [] := List.takeWhile_cons_of_neg hsep
  unfold partition
  rw [List.dropWhile_append_of_pos hne, List.takeWhile_append_of_pos hne, hdrop, htake,
    List.append_nil]

/-- Where there is a `sep`, the text is cut at the first one. -/
theorem partition_of_mem {sep : Char} {cs : List Char} (h : sep ∈ cs) :
    ∃ before after, cs = before ++ sep :: after ∧ sep ∉ before ∧
      partition sep cs = (before, some after) := by
  obtain ⟨before, after, rfl, hnot⟩ := List.eq_append_cons_of_mem h
  exact ⟨before, after, rfl, hnot, partition_append hnot after⟩

/-- `str.rpartition`: what is before the last `sep`, if there is one, and what is after it. -/
def rpartition (sep : Char) (cs : List Char) : Option (List Char) × List Char :=
  match (partition sep cs.reverse) with
  | (_, none) => (none, cs)
  | (after, some before) => (some before.reverse, after.reverse)

/-- `s[:2] == "//"` and what follows, up to the first character that ends the authority. -/
def splitNetloc : List Char → List Char × List Char
  | '/' :: '/' :: rest =>
    (rest.takeWhile fun c => decide (c ∉ ['/', '?', '#']),
      rest.dropWhile fun c => decide (c ∉ ['/', '?', '#']))
  | cs => ([], cs)

/-- The characters that a scheme may have. -/
def isSchemeChar (c : Char) : Bool := c.isAlphanum || c == '+' || c == '-' || c == '.'

/-- The scheme and what follows its colon. -/
def splitScheme (cs : List Char) : List Char × List Char :=
  match partition ':' cs with
  | (c :: scheme, some rest) =>
    if c.isAlpha && (c :: scheme).all isSchemeChar then ((c :: scheme).map Char.toLower, rest)
    else ([], cs)
  | _ => ([], cs)

/-- The control characters of ASCII and the space do not count at the beginning, and tabs and line
    ends nowhere. -/
def cleanUrl (cs : List Char) : List Char :=
  (cs.dropWhile fun c => decide (c.toNat ≤ 32)).filter fun c => decide (c ∉ ['\t', '\r', '\n'])

/-! ## The checks of the authority -/

variable [UrlRules]

/-- `re.match(r"\Av[a-fA-F0-9]+\..+\Z", host)`. -/
def isIPvFuture (host : List Char) : Bool :=
  match partition '.' (host.drop 1) with
  | (version, some address) => version ≠ [] && address ≠ [] &&
      version.all (fun c => c.isDigit || decide (c.toLower ∈ ['a', 'b', 'c', 'd', 'e', 'f'])) &&
      address.all fun c => c != '\n'
  | (_, none) => false

/-- `_check_bracketed_host`. -/
def checkBracketedHost (host : List Char) : Except String Unit :=
  if host.head? = some 'v' then
    if isIPvFuture host then .ok () else .error "IPvFuture address is invalid"
  else
    match UrlRules.ipVersion host with
    | some 4 => .error "An IPv4 address cannot be in brackets"
    | some _ => .ok ()
    | none =>
      .error ("'" ++ String.ofList host ++ "' does not appear to be an IPv4 or IPv6 address")

/-- `_check_bracketed_netloc`. -/
def checkBracketedNetloc (netloc : List Char) : Except String Unit :=
  match partition '[' (rpartition '@' netloc).2 with
  | (before, some bracketed) =>
    let (host, port) := partition ']' bracketed
    let port := port.getD []
    if before ≠ [] ∨ (port ≠ [] ∧ port.head? ≠ some ':') then .error "Invalid IPv6 URL"
    else checkBracketedHost host
  | (hostAndPort, none) => checkBracketedHost (partition ':' hostAndPort).1

/-- `_checknetloc`. -/
def checkNetloc (netloc : List Char) : Except String Unit :=
  let plain := netloc.filter fun c => decide (c ∉ ['@', ':', '#', '?'])
  let normal := UrlRules.nfkc plain
  if netloc.all (fun c => decide (c.toNat < 128)) ∨ plain = normal ∨
      normal.all fun c => decide (c ∉ ['/', '?', '#', '@', ':']) then .ok ()
  else .error ("netloc '" ++ String.ofList netloc ++
    "' contains invalid characters under NFKC normalization")

/-! ## The result -/

/-- `SplitResult`. -/
structure SplitResult where
  /-- `scheme`. -/
  scheme : List Char
  /-- `netloc`. -/
  netloc : List Char
  /-- `path`. -/
  path : List Char
  /-- `query`. -/
  query : List Char
  /-- `fragment`. -/
  fragment : List Char

/-- `urlsplit(url)`, with the text of the `ValueError` that it may raise. -/
def urlsplit (url : String) : Except String SplitResult := do
  let (scheme, rest) := splitScheme (cleanUrl url.toList)
  let (netloc, rest) := splitNetloc rest
  if netloc.contains '[' ≠ netloc.contains ']' then throw "Invalid IPv6 URL"
  if netloc.contains '[' then checkBracketedNetloc netloc
  let (rest, fragment) := partition '#' rest
  let (path, query) := partition '?' rest
  checkNetloc netloc
  return ⟨scheme, netloc, path, query.getD [], fragment.getD []⟩

namespace SplitResult

variable (self : SplitResult)

/-- `username`. -/
def username : Option (List Char) :=
  match rpartition '@' self.netloc with
  | (some userinfo, _) => some (partition ':' userinfo).1
  | (none, _) => none

/-- The host and the text of the port. -/
def hostinfo : List Char × List Char :=
  let hostinfo := (rpartition '@' self.netloc).2
  match partition '[' hostinfo with
  | (_, some bracketed) =>
    let (host, port) := partition ']' bracketed
    (host, ((partition ':' (port.getD [])).2).getD [])
  | (_, none) =>
    let (host, port) := partition ':' hostinfo
    (host, port.getD [])

/-- `hostname`: in lower case, up to the zone of a scoped address. -/
def hostname : Option (List Char) :=
  if self.hostinfo.1 = [] then none
  else
    let (host, zone) := partition '%' self.hostinfo.1
    some (host.flatMap lowerChar ++ (zone.map fun zone => '%' :: zone).getD [])

/-- `port`, with the text of the `ValueError` that it may raise. -/
def port : Except String (Option Nat) :=
  let text := self.hostinfo.2
  if text = [] then .ok none
  else if text.all Char.isDigit then
    let port := Nat.ofDigitChars 10 text 0
    if port ≤ 65535 then .ok (some port) else .error "Port out of range 0-65535"
  else .error ("Port could not be cast to integer value as '" ++ String.ofList text ++ "'")

end SplitResult

end Py
