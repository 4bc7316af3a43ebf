import Mixfix.Host.Url.Name

/-!
# URLs

The shape of an absolute URL: a scheme, a colon, and what the scheme wants after it. The schemes of the web
need a host, that of files may have one, and any other has one after two slashes. What comes after the host
and the port may be anything.
-/

set_option autoImplicit false

namespace Mixfix.Url

/-- What is wrong with a URL. -/
inductive Problem
  | empty
  | relative
  | host (problem : HostProblem)
  | invalidPort

/-- The wording of a problem. -/
def Problem.text : Problem → Text
  | .empty => txt "input is empty"
  | .relative => txt "relative URL without a base"
  | .host .empty => txt "empty host"
  | .host .invalidName => txt "invalid international domain name"
  | .host .invalidBytes => txt "invalid IPv4 address"
  | .host .invalidWords => txt "invalid IPv6 address"
  | .host .forbiddenCharacter => txt "invalid domain character"
  | .invalidPort => txt "invalid port number"

/-- What kind of scheme a URL has. -/
inductive SchemeKind
  | web
  | file
  | other
  deriving DecidableEq

/-- A colon. -/
def colon : CodePoint := ':'

/-- A backslash. -/
def backslash : CodePoint := '\\'

/-- A control character or the space. Those at the ends of a URL are dropped. -/
def isEdge (c : CodePoint) : Bool :=
  c.val ≤ 0x20

/-- A URL as it is read: without what is dropped at its ends, and without tabs and line breaks. -/
def cleaned (s : Text) : Text :=
  let start := s.dropWhile isEdge
  let inner := (start.reverse.dropWhile isEdge).reverse
  inner.filter fun c => !(c == '\t' || c == '\n' || c == '\r')

/-- A code point of a scheme after its first letter. -/
def inScheme (c : CodePoint) : Bool :=
  c.isLetter || c.isDigit || (txt "+-.").contains c

/-- The kind of a scheme in lower case. -/
def SchemeKind.ofScheme (scheme : Text) : SchemeKind :=
  if [txt "http", txt "https", txt "ws", txt "wss", txt "ftp"].contains scheme then .web
  else if scheme == txt "file" then .file
  else .other

/-- The kind of the scheme, and the text after its colon. -/
def scheme? (s : Text) : Option (SchemeKind × Text) := do
  let (name, rest) ← Text.splitFirst? colon s
  let first ← name.head?
  if first.isLetter && name.all inScheme then some (.ofScheme (name.map CodePoint.toLower), rest)
  else none

/-- Whether a code point is a slash of a kind of scheme. Outside of other schemes a backslash is one. -/
def SchemeKind.isSlash (kind : SchemeKind) (c : CodePoint) : Bool :=
  c == '/' || (kind != .other && c == backslash)

/-- Whether a code point ends the user, the host and the port. -/
def SchemeKind.endsAuthority (kind : SchemeKind) (c : CodePoint) : Bool :=
  kind.isSlash c || c == '?' || c == '#'

/-- The text before the last `@` and the text after it, if there is one. -/
def splitUser? (s : Text) : Option (Text × Text) :=
  (Text.splitFirst? '@' s.reverse).map fun (after, before) => (before.reverse, after.reverse)

/-- The host, and the text after it. A host in square brackets may have colons. -/
def splitHost (inBrackets : Bool) : Text → Text × Text
  | [] => ([], [])
  | c :: rest =>
    if c = ':' && !inBrackets then ([], c :: rest)
    else
      let within := if c = '[' then true else if c = ']' then false else inBrackets
      let (host, after) := splitHost within rest
      (c :: host, after)

/-- Whether a text is a colon and a port number, which may be empty, or nothing at all. A backslash ends the
port of any scheme. -/
def isPort (s : Text) : Bool :=
  let digits := (s.drop 1).takeWhile fun c => !(c == backslash)
  digits.all CodePoint.isDigit && Decimal.toNat digits < 0x10000

/-- What is wrong with the host and port after a user. -/
def hostAndPortProblem? (kind : SchemeKind) (hasUser : Bool) (s : Text) : Option Problem :=
  let (host, port) := splitHost false s
  let hostProblem :=
    if kind = .web && host.isEmpty then some .empty
    else if kind = .web then webHostProblem? host
    else otherHostProblem? host
  match hostProblem with
  | some problem => some (.host problem)
  | none =>
    if host.isEmpty && !port.isEmpty then some (.host .empty)
    else if !isPort port then some .invalidPort
    else if host.isEmpty && hasUser then some (.host .empty)
    else none

/-- What is wrong with the user, host and port, which are all of a URL up to the path. `more` says whether
there is a path. -/
def authorityProblem? (kind : SchemeKind) (more : Bool) (s : Text) : Option Problem :=
  match splitUser? s with
  | none => hostAndPortProblem? kind false s
  | some ([], rest) =>
    if rest.isEmpty && more then some (.host .empty) else hostAndPortProblem? kind false rest
  | some (user, rest) => hostAndPortProblem? kind (user != [colon]) rest

/-- Whether a text is a letter for a drive, and not a host. -/
def isDrive (s : Text) : Bool :=
  match s with
  | [letter, c] => letter.isLetter && (c == colon || c == '|')
  | _ => false

/-- What is wrong with a URL after its scheme. -/
def restProblem? (kind : SchemeKind) (s : Text) : Option Problem :=
  let upToPath := Text.takeRun fun c => !kind.endsAuthority c
  match kind with
  | .web =>
    let (authority, path) := upToPath (s.dropWhile kind.isSlash)
    authorityProblem? kind (!path.isEmpty) authority
  | .file =>
    match s with
    | first :: second :: rest =>
      let host := (upToPath rest).1
      if kind.isSlash first && kind.isSlash second && !host.isEmpty && !isDrive host then
        (webHostProblem? host).map .host
      else none
    | _ => none
  | .other =>
    match Text.after? (txt "//") s with
    | some rest =>
      let (authority, path) := upToPath rest
      authorityProblem? kind (!path.isEmpty) authority
    | none => none

/-- What is wrong with a text as a URL. -/
def problem? (s : Text) : Option Problem :=
  if s.isEmpty then some .empty
  else
    match scheme? (cleaned s) with
    | none => some .relative
    | some (kind, rest) => restProblem? kind rest

end Mixfix.Url
