import TrackResolver.Text.Digits
import TrackResolver.Text.Split

/-!
# Paths

The path of an address is a row of segments with a slash before each. Reading it takes away the
segments `.` and `..`, each `..` with the segment before it. A segment that names a drive stays.

Characters that may not stand in a part of an address are written in digits behind a percent sign.
-/
namespace TrackResolver.Proxy

/-! ## Characters in digits -/

/-- A byte as a percent sign and two digits. -/
def percentByte (b : UInt8) : List Char :=
  ['%', (Nat.digitChar (b.toNat / 16)).toUpper, (Nat.digitChar (b.toNat % 16)).toUpper]

/-- Writes controls, all that is not ASCII, and the `reserved` characters in digits. -/
def percentEncode (reserved : List Char) (cs : List Char) : List Char :=
  cs.flatMap fun c =>
    if c.toNat < 0x20 || 0x7e < c.toNat || reserved.contains c then
      (String.utf8EncodeChar c).flatMap percentByte
    else [c]

/-- What is reserved in a fragment. -/
def fragmentReserved : List Char := " \"<>\x60".toList

/-- What is reserved in a path. -/
def pathReserved : List Char := fragmentReserved ++ "#?\x7b\x7d".toList

/-- What is reserved in a query. -/
def queryReserved : List Char := " \"#<>".toList

/-! ## Segments -/

/-- Tabs and line breaks do not count in an address. -/
def isBreak (c : Char) : Bool := c = '\t' || c = '\n' || c = '\r'

def withoutBreaks (cs : List Char) : List Char := cs.filter (!isBreak ·)

/-- Whether a segment names a drive: a letter and a colon, or a bar in its place. -/
def isDrive : List Char → Bool
  | [c, d] => c.isAlpha && (d = ':' || d = '|')
  | _ => false

/-- Whether a segment names a drive, perhaps with a path behind a backslash. -/
def isDrivePath (segment : List Char) : Bool := isDrive (segment.takeWhile (· ≠ '\\'))

/-- With the dots that are written in digits as dots. -/
def plainDots : List Char → List Char
  | '%' :: '2' :: 'e' :: cs | '%' :: '2' :: 'E' :: cs => '.' :: plainDots cs
  | c :: cs => c :: plainDots cs
  | [] => []

/-- A drive with a break right behind it, and what follows. -/
def cutDrive? (segment : List Char) : Option (List Char × List Char) := do
  let (letter, rest) ← Text.cutAt? ':' segment
  let drive := withoutBreaks letter ++ [':']
  if isDrive drive && rest.head?.any isBreak && !(withoutBreaks rest).isEmpty then
    some (drive, withoutBreaks rest)
  else none

structure Path where
  /-- The segments behind which a slash stands, latest first. -/
  closed : List (List Char) := []
  last : List Char := []
  /-- Whether the first segment names a drive and nothing else. -/
  hasDrive : Bool := false

namespace Path

/-- The segments without the latest, unless that names a drive. -/
def pop : List (List Char) → List (List Char)
  | segment :: closed => if isDrivePath segment then segment :: closed else closed
  | [] => []

/-- One segment more, with no slash behind it so far. With `drives`, a drive at the beginning is
written with a colon, and a break behind one ends the segment and leaves the next as it is. -/
def enter (p : Path) (drives : Bool) (segment : List Char) : Path × Option (List Char) :=
  let drives := drives && p.closed.isEmpty
  match if drives then cutDrive? segment else none with
  | some (drive, rest) => ({ p with closed := [drive] }, some (percentEncode pathReserved rest))
  | none =>
    let segment := percentEncode pathReserved (withoutBreaks segment)
    match plainDots segment with
    | ['.'] => (p, none)
    | ['.', '.'] => ({ p with closed := pop p.closed }, none)
    | _ =>
      if drives && isDrive segment then ({ p with hasDrive := true }, some [segment.headD ':', ':'])
      else (p, some segment)

/-- Reads the segments behind the first slash. -/
def ofSegments (drives : Bool) (p : Path) : List (List Char) → Path
  | [] => p
  | [segment] =>
    let (p, left) := p.enter drives segment
    { p with last := left.getD [] }
  | segment :: segments =>
    let (p, left) := p.enter drives segment
    ofSegments drives { p with closed := left.toList ++ p.closed } segments

/-- Reads what stands behind the first slash. -/
def read (backslashes drives : Bool) (cs : List Char) : Path :=
  let slashed := if backslashes then cs.map fun c => if c = '\\' then '/' else c else cs
  ofSegments drives {} (Text.splitOn '/' slashed)

/-- Without empty segments at the beginning. -/
def trimmed (p : Path) : Path :=
  { p with closed := (p.closed.reverse.dropWhile (·.isEmpty)).reverse }

def text (p : Path) : List Char :=
  '/' :: p.closed.reverse.flatMap (· ++ ['/']) ++ p.last

end Path

end TrackResolver.Proxy
