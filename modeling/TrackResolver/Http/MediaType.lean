/-!
# Media types

Whether the type of a body is JSON: `application/json`, or a subtype of `application` whose suffix
is `json`. What stands behind the last plus sign is the suffix, and what stands before it is the
subtype. Parameters have to be well-formed but do not matter.
-/
namespace TrackResolver.Http.MediaType

/-- A character of a name. -/
def isToken (c : Char) : Bool := c.isAlphanum || "!#$%&\x27*+-.^_\x60|~".toList.contains c

/-- A character between quotes. -/
def isQuotable (c : Char) : Bool := 0x20 ≤ c.toNat && c ≠ '\x7f'

/-- Where the parameters are being read; `some` is behind the first character of a part. -/
inductive Place where
  | beforeName
  | inName
  | beforeValue
  | inValue
  | beforeQuoted
  | inQuoted
  | afterQuoted
deriving DecidableEq

/-- One character of the parameters. -/
def Place.step (p : Place) (c : Char) : Option Place :=
  match p with
  | beforeName => if c = ' ' then some beforeName else if isToken c then some inName else none
  | inName => if isToken c then some inName else if c = '=' then some beforeValue else none
  | beforeValue => if c = '"' then some beforeQuoted else if isToken c then some inValue else none
  | inValue => if isToken c then some inValue else if c = ';' then some beforeName else none
  | beforeQuoted => if isQuotable c then some inQuoted else none
  | inQuoted => if c = '"' then some afterQuoted else if isQuotable c then some inQuoted else none
  | afterQuoted =>
    if c = ';' then some beforeName else if c = ' ' then some afterQuoted else none

/-- Whether the parameters may end here. -/
def Place.final : Place → Bool
  | beforeName | beforeValue | inValue | afterQuoted => true
  | inName | beforeQuoted | inQuoted => false

/-- Whether the text behind the first semicolon is a list of parameters. -/
def areParameters (cs : List Char) : Bool :=
  match cs.foldlM Place.step .beforeName with
  | some p => p.final
  | none => false

/-- A subtype without its suffix, and the suffix if it has one. A plus sign at the beginning belongs
to the subtype. -/
def cutSuffix (cs : List Char) : List Char × Option (List Char) :=
  let suffix := (cs.reverse.takeWhile (· ≠ '+')).reverse
  let before := cs.take (cs.length - suffix.length - 1)
  if cs.contains '+' && !before.isEmpty then (before, some suffix) else (cs, none)

/-- Whether a header may hold a character. -/
def isVisible (c : Char) : Bool := c = '\t' || (0x20 ≤ c.toNat && c.toNat < 0x7f)

/-- Whether `s` is the type of a JSON body. -/
def isJson (s : String) : Bool :=
  let cs := s.toList.map Char.toLower
  let type := cs.takeWhile (· ≠ '/')
  let behind := cs.drop (type.length + 1)
  let full := behind.takeWhile (· ≠ ';')
  let (subtype, suffix) := cutSuffix full
  cs.all isVisible && type = "application".toList && type.length < cs.length &&
    full.all isToken && !full.isEmpty &&
    (subtype = "json".toList || suffix = some "json".toList) &&
    areParameters (behind.drop (full.length + 1))

end TrackResolver.Http.MediaType
