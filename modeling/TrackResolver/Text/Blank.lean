/-!
# Blank characters

`isBlank` is the Unicode property White_Space, twenty-five characters; `trim` takes blanks away at
both ends of a text and nowhere else.
-/
namespace TrackResolver.Text

/-- The first and last code points of each run of White_Space. -/
def blankRanges : List (Nat × Nat) :=
  [(0x9, 0xd), (0x20, 0x20), (0x85, 0x85), (0xa0, 0xa0), (0x1680, 0x1680), (0x2000, 0x200a),
   (0x2028, 0x2029), (0x202f, 0x202f), (0x205f, 0x205f), (0x3000, 0x3000)]

def isBlank (c : Char) : Bool :=
  blankRanges.any fun (first, last) => first ≤ c.toNat && c.toNat ≤ last

/-- Without the blanks at either end. -/
def trimList (cs : List Char) : List Char :=
  ((cs.dropWhile isBlank).reverse.dropWhile isBlank).reverse

def trim (s : String) : String := String.ofList (trimList s.toList)

/-- Whether nothing but blanks stands in `s`. -/
def isAllBlank (s : String) : Bool := s.toList.all isBlank

end TrackResolver.Text
