import Inventory.Url.Host
import Inventory.Url.Segments

/-!
# URLs

A URL is a scheme and what the scheme makes of the rest. The schemes of the web name a host, and a
path on it. Reading a URL brings it into one form: the scheme and the domain in small letters, the
path resolved, what is not printable ASCII escaped, the port left out where the scheme implies it,
the fragment dropped. Main statement: `target_of_no_query`.
-/

namespace Inventory

/-- A URL, taken apart. -/
structure Url where
  scheme : String
  host : Option Url.Host
  /-- The port, if it is another than the scheme implies. -/
  port : Option Nat
  path : String
  query : Option String
  deriving DecidableEq

namespace Url

/-- The kinds of schemes. -/
inductive Kind where
  /-- A scheme of the web, always with a host. -/
  | web
  | file
  | other
  deriving DecidableEq

/-- The kind of a scheme. -/
def Kind.ofScheme (scheme : String) : Kind :=
  if scheme ∈ ["http", "https", "ws", "wss", "ftp"] then .web
  else if scheme = "file" then .file
  else .other

/-- The port that a scheme implies. -/
def impliedPort? (scheme : String) : Option Nat :=
  if scheme = "http" ∨ scheme = "ws" then some 80
  else if scheme = "https" ∨ scheme = "wss" then some 443
  else if scheme = "ftp" then some 21
  else none

/-- What separates segments: a slash, and a backslash except in other schemes. -/
def Kind.isSlash : Kind → Char → Bool
  | .other, c => c == '/'
  | _, c => c == '/' || c == '\\'

/-- What ends the part of a URL that names a host. -/
def Kind.endsHost (kind : Kind) (c : Char) : Bool := kind.isSlash c || c == '?' || c == '#'

/-! ## Clean text and scheme -/

/-- Without controls and blanks at both ends, and without tabs and line breaks anywhere. -/
def clean (cs : List Char) : List Char :=
  let blank := fun c : Char => c.toNat ≤ 0x20
  ((cs.dropWhile blank).reverse.dropWhile blank).reverse.filter
    fun c => c ≠ '\t' ∧ c ≠ '\n' ∧ c ≠ '\r'

/-- The characters of schemes. -/
def isSchemeChar (c : Char) : Bool := c.isAlphanum || c == '+' || c == '-' || c == '.'

/-- The scheme in front of a colon, and what follows. -/
def splitScheme (cs : List Char) : Option (String × List Char) :=
  match cs.dropWhile isSchemeChar with
  | ':' :: rest =>
    if cs.head?.any Char.isAlpha then
      some (String.ofList ((cs.takeWhile isSchemeChar).map Char.toLower), rest)
    else none
  | _ => none

/-! ## Path and query -/

/-- The query in front of a fragment, if a question mark begins one. -/
def queryOf (kind : Kind) : List Char → Option String
  | '?' :: rest =>
    let mustEscape := match kind with
      | .other => Percent.inQuery
      | _ => Percent.inWebQuery
    some (String.ofList (Percent.escape mustEscape (rest.takeWhile (· ≠ '#'))))
  | _ => none

/-- The character ends a path. -/
def endsPath (c : Char) : Bool := c == '?' || c == '#'

/-- The path at the front of a text. In the web there is always one; elsewhere nothing may stand
for none. -/
def pathOf (kind : Kind) (cs : List Char) : String :=
  String.ofList <|
    match cs.takeWhile (!endsPath ·), kind with
    | [], .other => []
    | [], _ => ['/']
    | c :: rest, _ => Segments.path kind.isSlash (if kind.isSlash c then rest else c :: rest)

/-- The URL with a host and what follows it. -/
def onHost (kind : Kind) (scheme : String) (host : Option Host) (port : Option Nat)
    (cs : List Char) : Url where
  scheme
  host
  port
  path := pathOf kind cs
  query := queryOf kind (cs.dropWhile (!endsPath ·))

/-! ## Hosts and ports -/

/-- What stands before the last at sign, if there is one, and what stands after it. -/
def splitAt (cs : List Char) : Option (List Char) × List Char :=
  match cs.reverse.dropWhile (· ≠ '@') with
  | [] => (none, cs)
  | _ :: before => (some before.reverse, (cs.reverse.takeWhile (· ≠ '@')).reverse)

/-- The host up to a colon outside brackets, and what follows. -/
def splitHost : Bool → List Char → List Char × List Char
  | _, [] => ([], [])
  | inside, c :: rest =>
    if c = ':' ∧ inside = false then ([], c :: rest)
    else
      let inside := if c = '[' then true else if c = ']' then false else inside
      let (host, after) := splitHost inside rest
      (c :: host, after)

/-- The port after a host, and what follows its digits. -/
def splitPort (scheme : String) : List Char → Option (Option Nat × List Char)
  | ':' :: rest =>
    let digits := rest.takeWhile Char.isDigit
    let n := digits.foldl (fun n c => n * 10 + (c.toNat - 48)) 0
    let after := rest.dropWhile Char.isDigit
    if n < 65536 ∧ (after = [] ∨ after.head? = some '\\') then
      some (if digits = [] ∨ impliedPort? scheme = some n then none else some n, after)
    else none
  | after => some (none, after)

/-- A user or a password is given. -/
def hasCredentials (cs : List Char) : Bool := cs != [] && cs != [':']

/-- The host of a URL may be missing: only in other schemes, without user, password and port, and
not where an at sign stands alone in front of more. -/
def mayMissHost (kind : Kind) (credentials : Option (List Char)) (port more : List Char) : Bool :=
  kind = .other && port.isEmpty &&
    match credentials with
    | none => true
    | some cs => !hasCredentials cs && !(cs.isEmpty && !more.isEmpty)

/-- The URL that a text after two slashes spells. -/
def ofAuthority (kind : Kind) (scheme : String) (cs : List Char) : Option Url :=
  let more := cs.dropWhile (!kind.endsHost ·)
  let (credentials, named) := splitAt (cs.takeWhile (!kind.endsHost ·))
  let (host, port) := splitHost false named
  if host = [] then
    if mayMissHost kind credentials port more then some (onHost kind scheme none none more)
    else none
  else
    match (if kind = .web then Host.ofWeb? host else Host.ofOther? host), splitPort scheme port with
    | some host, some (port, after) => some (onHost kind scheme host port (after ++ more))
    | _, _ => none

/-- The name is that of a drive: a letter and a colon. -/
def isDrive : List Char → Bool
  | [c, d] => c.isAlpha && (d == ':' || d == '|')
  | _ => false

/-- The URL of a file. Two slashes begin a host, which may be missing; a drive is no host. -/
def ofFile (cs : List Char) : Option Url :=
  match cs with
  | a :: b :: rest =>
    let host := rest.takeWhile (!Kind.file.endsHost ·)
    if Kind.file.isSlash a && Kind.file.isSlash b && !isDrive host && host != [] then
      (Host.ofWeb? host).map fun h =>
        onHost .file "file" (if h = .domain "localhost" then none else some h) none
          (rest.dropWhile (!Kind.file.endsHost ·))
    else if Kind.file.isSlash a && Kind.file.isSlash b then
      some (onHost .file "file" none none rest)
    else some (onHost .file "file" none none cs)
  | _ => some (onHost .file "file" none none cs)

/-- The URL of another scheme: two slashes begin a host, one slash begins a path, and any other
text stands for itself. -/
def ofOther (scheme : String) (cs : List Char) : Option Url :=
  match cs with
  | '/' :: '/' :: rest => ofAuthority .other scheme rest
  | '/' :: _ => some (onHost .other scheme none none cs)
  | _ =>
    some
      { scheme
        host := none
        port := none
        path := String.ofList (Percent.escape Percent.isForeign (cs.takeWhile (!endsPath ·)))
        query := queryOf .other (cs.dropWhile (!endsPath ·)) }

/-- The URL that a text spells. -/
def parse (text : String) : Option Url :=
  match splitScheme (clean text.toList) with
  | none => none
  | some (scheme, rest) =>
    match Kind.ofScheme scheme with
    | .web => ofAuthority .web scheme (rest.dropWhile Kind.web.isSlash)
    | .file => ofFile rest
    | .other => ofOther scheme rest

/-- What of a URL its host is asked for. -/
def target (u : Url) : String :=
  u.path ++ match u.query with
    | none => ""
    | some query => "?" ++ query

/-- Without a query the path alone is asked for. -/
theorem target_of_no_query {u : Url} (h : u.query = none) : u.target = u.path := by
  simp [target, h]

end Url

end Inventory
