import TrackResolver.Domain.Direction
import TrackResolver.Domain.Joiner
import TrackResolver.Domain.MappingTable
import TrackResolver.Domain.Punycode
import TrackResolver.Text.Composed
import TrackResolver.Text.Marks

/-!
# Domain names

A domain name may be written in any script. `read?` brings a name into the form in which it is
compared: its characters are replaced or dropped as the tables say and put together. The name is
valid if each label is, and a label that begins with `xn--` is valid if what it is sent for is, and
if that has no other form.
-/
namespace TrackResolver.Domain

open Text (becomes? isAmong composed)

def isAscii (c : Char) : Bool := c.toNat < 0x80

/-- The text that stands for a character; none if no name may hold it. -/
def mapChar? (c : Char) : Option (List Char) :=
  if isAscii c then some [c.toLower]
  else if isAmong droppedTable c then some []
  else match becomes? mapped c with
    | some cs => some cs
    | none => if isAmong refusedTable c then none else some [c]

/-- The form of a text in which it is compared. -/
def normal? (cs : List Char) : Option (List Char) :=
  (cs.mapM mapChar?).map fun parts => composed parts.flatten

/-- The characters below U+0080 that may not stand in a name. -/
def isForbidden (c : Char) : Bool :=
  c.toNat ≤ 0x20 || c = '\x7f' || "%#/:<>?@[\\]^|".toList.contains c

/-- The longest label that is encoded, in characters. -/
def longestLabel : Nat := 1000

/-- The longest encoded label that is decoded, in characters. -/
def longestCode : Nat := 2000

/-- Whether a label in its own script is well-formed. -/
def isLabel (label : List Char) : Bool :=
  !label.head?.any Text.isMark && joinersFit [] label

/-- The label that is meant by one that is in normal form; none if it is not valid. -/
def readLabel? (label : List Char) : Option (List Char) :=
  match label with
  | 'x' :: 'n' :: '-' :: '-' :: code =>
    if code.all isAscii && code.getLast? ≠ some '-' && code.length ≤ longestCode then do
      let meant ← Punycode.decode? code
      if !meant.isEmpty && normal? meant = some meant && isLabel meant then some meant else none
    else none
  | label =>
    if label.all isAscii || (label.length ≤ longestLabel && isLabel label) then some label else none

/-- The name in the form in which it is compared; none if it is not valid. -/
def read? (name : List Char) : Option (List Char) := do
  let name ← normal? name
  if name.any isForbidden then none
  else
    let labels ← (Text.splitOn '.' name).mapM readLabel?
    if labels.any (·.any isRightward) && !labels.all isDirected then none else some name

end TrackResolver.Domain
