import DependencyEvidence.Url.FilePath
import DependencyEvidence.Url.Host

/-!
# URLs

A URL leads to a file of this machine, or somewhere else. `Url.parse?` reads one; URLs of files on other machines lead
nowhere and are refused.
-/

namespace DependencyEvidence

/-- What a URL leads to. -/
inductive Url where
  /-- A file of this machine. -/
  | file (path : Path)
  /-- A file of this machine with a path whose bytes are no text. -/
  | unspelled (path : List UInt8)
  /-- Something that only a network could reach. -/
  | elsewhere
deriving DecidableEq, Repr

namespace Url

/-! ## Schemes -/

/-- The text without control characters and spaces at its ends. -/
def trimmed (text : List Char) : List Char :=
  let isEnd := fun c : Char => c.toNat ≤ 0x20
  ((text.dropWhile isEnd).reverse.dropWhile isEnd).reverse

/-- Whether a character may follow the first letter of a scheme. -/
def isSchemeChar (c : Char) : Bool := c.isAlphanum || c == '+' || c == '-' || c == '.'

/-- The scheme in lower case, and what follows its colon. -/
def scheme? (text : List Char) : Option (String × List Char) :=
  match text.takeWhile isSchemeChar, text.dropWhile isSchemeChar with
  | c :: more, ':' :: rest => if c.isAlpha then some (String.ofList ((c :: more).map Char.toLower), rest) else none
  | _, _ => none

/-- The schemes of hosts on a network. -/
def networkSchemes : List String := ["http", "https", "ws", "wss", "ftp"]

/-! ## Files -/

/-- The path that follows two slashes and perhaps a host, if the file is on this machine. -/
def hostedPath? (text : List Char) : Option (List UInt8) :=
  let ends := fun c => isSlash c || endsPath c
  let host := counting (text.takeWhile (!ends ·))
  let path := text.dropWhile (!ends ·)
  if isDrive host then some (Resolution.ofText text).path
  else if host.isEmpty then some (Resolution.ofText path).path
  else do
    if (← host? host) = "localhost".toList then some (Resolution.ofText path).path
    else
      let r := Resolution.ofText (path.drop 1)
      if path.head?.any isSlash && r.replacesHost then some r.path else none

/-- The path of a file URL, given what follows its scheme, if the file is on this machine. -/
def filePath? (text : List Char) : Option (List UInt8) :=
  match text.dropWhile isIgnored with
  | a :: rest =>
    if isSlash a then
      match rest.dropWhile isIgnored with
      | b :: more => if isSlash b then hostedPath? more else some (Resolution.ofText rest).path
      | [] => some (Resolution.ofText rest).path
    else some (Resolution.ofText text).path
  | [] => some (Resolution.ofText text).path

/-- The file with a path. -/
def ofPath (path : List UInt8) : Url :=
  match Text.text? path with
  | some text => .file ⟨text⟩
  | none => .unspelled path

/-! ## Authorities -/

/-- Whether the number of a service follows, or none: digits of a number below 65536. -/
def isService (text : List Char) : Bool :=
  let digits := text.takeWhile Char.isDigit
  let rest := text.drop digits.length
  Text.numberOf 10 digits < 65536 && (rest.isEmpty || rest.head?.any fun c => isSlash c || endsPath c)

/-- A host and what follows it. A colon ends the host, but for those in brackets. -/
def splitHost (inBrackets : Bool) : List Char → List Char × List Char
  | [] => ([], [])
  | c :: rest =>
    if c = ':' && !inBrackets then ([], c :: rest)
    else
      let (host, more) := splitHost (if c = '[' then true else if c = ']' then false else inBrackets) rest
      (c :: host, more)

/-- Whether what follows two slashes has a host, and the number of a service there if any, as they should be. -/
def hasAuthority (isNetwork : Bool) (text : List Char) : Bool :=
  let authority := text.takeWhile fun c => !(c == '/' || endsPath c || (isNetwork && c == '\\'))
  let parts := Text.pieces '@' authority
  let user := Text.joined '@' parts.dropLast
  let (host, service) := splitHost false (parts.getLastD [])
  let isServiceGood := match service with
    | ':' :: digits => isService digits
    | _ => true
  if isNetwork then (host? host).isSome && isServiceGood
  else if host.isEmpty then
    let isLoneAt := 1 < parts.length && user.isEmpty && text.length ≠ authority.length
    service.isEmpty && (user.isEmpty || user = [':']) && !isLoneAt
  else isPlainHost host && isServiceGood

/-! ## URLs -/

/-- Reads a URL. -/
def parse? (text : String) : Option Url := do
  let text := trimmed text.toList
  let (scheme, rest) ← scheme? (counting text)
  if scheme = "file" then (filePath? ((text.dropWhile (· ≠ ':')).drop 1)).map ofPath
  else if networkSchemes.contains scheme then
    if hasAuthority true (rest.dropWhile isSlash) then some .elsewhere else none
  else match rest with
    | '/' :: '/' :: rest => if hasAuthority false rest then some .elsewhere else none
    | _ => some .elsewhere

end Url

end DependencyEvidence
