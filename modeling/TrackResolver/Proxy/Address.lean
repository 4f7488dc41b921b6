import TrackResolver.Proxy.Host
import TrackResolver.Proxy.Path

/-!
# Addresses

An address begins with a scheme and a colon. What follows names a host, perhaps behind a user and
perhaps with a port, when the scheme is one of those that always do or when two slashes follow. The
path comes next, then the query and the fragment. An address of a file has its own rules for the host
and the path, and one without a host and without a slash has a path without segments.

`Address.text` writes an address without a host as it was understood.
-/
namespace TrackResolver.Proxy

structure Address where
  scheme : List Char
  /-- The host, if one is named. -/
  host : Option (List Char) := none
  /-- Whether two slashes stand behind the scheme. -/
  slashes : Bool := false
  /-- The path as it is written. -/
  path : List Char
  query : Option (List Char) := none
  fragment : Option (List Char) := none

/-- The address as it was understood, without the host. Where no two slashes stand behind the scheme,
a path that begins with two is written with a dot in front of them. -/
def Address.text (a : Address) : String :=
  let path := match a.path with
    | '/' :: '/' :: rest => if a.slashes then a.path else "/.//".toList ++ rest
    | path => path
  String.ofList (a.scheme ++ ':' :: (if a.slashes then ['/', '/'] else []) ++ path ++
    (a.query.map ('?' :: ·)).getD [] ++ (a.fragment.map ('#' :: ·)).getD [])

/-- Without controls and blanks at the ends. -/
def trimmed (cs : List Char) : List Char :=
  let isEdge (c : Char) : Bool := c.toNat ≤ 0x20
  ((cs.dropWhile isEdge).reverse.dropWhile isEdge).reverse

/-! ## The scheme -/

/-- The scheme in small letters and what is behind its colon. -/
def cutScheme? (cs : List Char) : Option (List Char × List Char) := do
  let (scheme, rest) ← Text.cutAt? ':' cs
  let scheme := withoutBreaks scheme
  let first ← scheme.head?
  if first.isAlpha && scheme.all fun c => c.isAlphanum || c = '+' || c = '-' || c = '.' then
    some (scheme.map Char.toLower, rest)
  else none

/-- What an address with a scheme looks like. -/
inductive Form where
  /-- It always names a host. -/
  | web
  | file
  | other
deriving DecidableEq

def Form.ofScheme (scheme : List Char) : Form :=
  if ["http", "https", "ws", "wss", "ftp"].map String.toList |>.contains scheme then .web
  else if scheme = "file".toList then .file else .other

/-- Whether a backslash counts as a slash. -/
def Form.slashed (f : Form) : Bool := f ≠ .other

def Form.isSlash (f : Form) (c : Char) : Bool := c = '/' || (f.slashed && c = '\\')

/-! ## Query and fragment -/

/-- Whether a part of an address ends here because the query or the fragment begins. -/
def endsPath (c : Char) : Bool := c = '?' || c = '#'

/-- The query and the fragment at the beginning of a text. -/
def readTail (f : Form) (cs : List Char) : Option (List Char) × Option (List Char) :=
  let reserved := if f.slashed then '\'' :: queryReserved else queryReserved
  let (query, behind) := match cs with
    | '?' :: cs => (some (percentEncode reserved (cs.takeWhile (· ≠ '#'))), cs.dropWhile (· ≠ '#'))
    | cs => (none, cs)
  let fragment := match behind with
    | '#' :: cs => some (percentEncode fragmentReserved cs)
    | _ => none
  (query, fragment)

/-- The address with what stands behind its host. The path of a form with slashes always has one. -/
def Address.withRest (a : Address) (f : Form) (cs : List Char) : Address :=
  let (query, fragment) := readTail f (cs.dropWhile (!endsPath ·))
  let path := match cs.takeWhile (!endsPath ·) with
    | [] => if f.slashed then ['/'] else []
    | c :: cs => (Path.read f.slashed (f = .file) (if f.isSlash c then cs else c :: cs)).text
  { a with path, query, fragment }

/-! ## The host -/

/-- Whether the part of an address that names the host ends here. -/
def Form.endsAuthority (f : Form) (c : Char) : Bool := f.isSlash c || endsPath c

/-- What stands before the last `@`, if there is one, and what stands behind it. -/
def cutUser (authority : List Char) : Option (List Char) × List Char :=
  match Text.cutAt? '@' authority.reverse with
  | some (host, user) => (some user.reverse, host.reverse)
  | none => (none, authority)

/-- The host and, behind a colon that is not between brackets, the port. -/
def cutPort (inBrackets : Bool) : List Char → List Char × Option (List Char)
  | [] => ([], none)
  | c :: cs =>
    if c = ':' && !inBrackets then ([], some cs)
    else
      let (host, port) := cutPort (if c = '[' then true else if c = ']' then false else inBrackets) cs
      (c :: host, port)

/-- A port has at most sixteen bits; none may be written. -/
def isPort (cs : List Char) : Bool :=
  match number? 10 cs with
  | some n => n < 65536
  | none => false

/-- Reads the part between the slashes and the path; gives the host and what is left to read. A port
ends at a backslash even where that is no slash. -/
def readAuthority (f : Form) (cs : List Char) : Except Fault (Option (List Char) × List Char) := do
  let authority := cs.takeWhile (!f.endsAuthority ·)
  let rest := cs.dropWhile (!f.endsAuthority ·)
  let (user, hostAndPort) := cutUser authority
  let named := match user with
    | none | some [] | some [':'] => false
    | some _ => true
  if user = some [] && hostAndPort.isEmpty && !rest.isEmpty then
    throw .emptyHost
  let (host, port) := cutPort false hostAndPort
  let host ← if f.slashed then readHost host else readOpaqueHost host
  if host.isEmpty && (port.isSome || named) then throw .emptyHost
  let behind ← match port with
    | some digits =>
      if isPort (digits.takeWhile (· ≠ '\\')) then pure (digits.dropWhile (· ≠ '\\'))
      else throw .badPort
    | none => pure []
  return (if host.isEmpty then none else some host, behind ++ rest)

/-- The host of a file; that of the own machine counts as none. -/
def readFileHost (cs : List Char) : Except Fault (Option (List Char)) :=
  if cs.isEmpty then .ok none
  else (readHost cs).map fun host => if host = "localhost".toList then none else some host

/-- What stands behind the slash at the beginning. -/
def behindSlash? (cs : List Char) : Option (List Char) :=
  match cs.dropWhile isBreak with
  | c :: rest => if Form.file.isSlash c then some rest else none
  | [] => none

/-- Reads an address of a file behind its scheme; the breaks are still in it. A drive stands for the
host. -/
def readFile (a : Address) (cs : List Char) : Except Fault Address := do
  let finish (host : Option (List Char)) (cs : List Char) : Address :=
    let path := cs.takeWhile (!endsPath ·)
    let path := Path.read true true ((behindSlash? path).getD path)
    let (query, fragment) := readTail .file (withoutBreaks (cs.dropWhile (!endsPath ·)))
    { a with
      host := if path.hasDrive then none else host
      slashes := true, path := path.trimmed.text, query, fragment }
  match (behindSlash? cs).bind behindSlash? with
  | none => return finish none cs
  | some behind =>
    let host := behind.takeWhile (!Form.file.endsAuthority ·)
    let name := withoutBreaks host
    if isDrive name then return finish none behind
    else return finish (← readFileHost name) (behind.drop host.length)

/-! ## Addresses -/

/-- Reads an address. -/
def Address.ofText (s : String) : Except Fault Address :=
  match cutScheme? (trimmed s.toList) with
  | none => .error .relative
  | some (scheme, raw) =>
    let a : Address := { scheme, path := [] }
    let rest := withoutBreaks raw
    match Form.ofScheme scheme, rest with
    | .file, _ => readFile a raw
    | .web, _ => do
      let (host, rest) ← readAuthority .web (rest.dropWhile fun c => c = '/' || c = '\\')
      return { a with host, slashes := true }.withRest .web rest
    | .other, '/' :: '/' :: rest => do
      let (host, rest) ← readAuthority .other rest
      return { a with host, slashes := true }.withRest .other rest
    | .other, '/' :: _ => .ok (a.withRest .other rest)
    | .other, _ =>
      let (query, fragment) := readTail .other (rest.dropWhile (!endsPath ·))
      .ok { a with path := percentEncode [] (rest.takeWhile (!endsPath ·)), query, fragment }

end TrackResolver.Proxy
