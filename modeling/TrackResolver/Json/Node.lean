import TrackResolver.Json.Token

/-!
# JSON trees

`parse` builds the tree of the first value of a document, out of its tokens one at a time. Where the
document stops being JSON the tree stops as well: every value on the way there says so in its
ending, so a reader that goes through the tree in order meets the first thing that is wrong first.
After a comma there always is an item or a member, if only a broken one.
-/
namespace TrackResolver.Json

open Reading (Stop)

/-- Whether a value is all there. -/
inductive Ending where
  | closed
  | stopped (s : Stop)
deriving DecidableEq

inductive Node where
  | null
  | boolean (b : Bool)
  | number (n : Numeral)
  | text (pieces : List Piece) (ending : Ending)
  | array (items : List Node) (ending : Ending)
  /-- The members in order; what stands for a name need not be a text. -/
  | object (members : List (Node × Node)) (ending : Ending)
  | brokenWord (null : Bool) (stop : Stop)
  | brokenNumber (stop : Stop)
  /-- No value begins here. -/
  | nothing (stop : Stop)

/-- A container that is open, with what it holds so far, latest first, and what comes next. -/
inductive Level where
  /-- An item of an array, or its end if there is none yet. -/
  | item (items : List Node) (first : Bool)
  | afterItem (items : List Node)
  /-- A name in an object, or its end if there is no member yet. -/
  | name (members : List (Node × Node)) (first : Bool)
  | colon (members : List (Node × Node)) (name : Node)
  | value (members : List (Node × Node)) (name : Node)
  | afterMember (members : List (Node × Node))

/-- A tree on its way: the containers that are open, innermost first, or the finished value and
whether more came behind it. -/
inductive Growth where
  | growing (levels : List Level)
  | grown (value : Node) (more : Bool)

/-- The container as it is left when its value `n` stops at `s`. -/
def Level.cutAt (s : Stop) (n : Node) : Level → Node
  | item items _ => .array (n :: items).reverse (.stopped s)
  | afterItem items => .array items.reverse (.stopped s)
  | name members _ => .object ((n, .nothing s) :: members).reverse (.stopped s)
  | colon members k => .object ((k, n) :: members).reverse (.stopped s)
  | value members k => .object ((k, n) :: members).reverse (.stopped s)
  | afterMember members => .object members.reverse (.stopped s)

/-- The whole tree when it stops at `s` inside the value `n`. -/
def cut (s : Stop) (n : Node) (levels : List Level) : Growth :=
  .grown (levels.foldl (fun n level => level.cutAt s n) n) true

/-- Puts a finished value where one is expected. -/
def plug (n : Node) : List Level → Growth
  | [] => .grown n false
  | .item items _ :: levels => .growing (.afterItem (n :: items) :: levels)
  | .value members k :: levels => .growing (.afterMember ((k, n) :: members) :: levels)
  | levels => cut .malformed (.nothing .malformed) levels

/-- A token where a value is expected. -/
def atValue (t : Token) (levels : List Level) : Growth :=
  match t with
  | .null => plug .null levels
  | .boolean b => plug (.boolean b) levels
  | .number n => plug (.number n) levels
  | .text pieces => plug (.text pieces .closed) levels
  | .openArray => .growing (.item [] true :: levels)
  | .openObject => .growing (.name [] true :: levels)
  | .brokenWord null s => cut s (.brokenWord null s) levels
  | .brokenNumber s => cut .malformed (.brokenNumber s) levels
  | .brokenText pieces s => cut s (.text pieces (.stopped s)) levels
  | .closeArray | .closeObject | .comma | .colon | .stray =>
    cut .malformed (.nothing .malformed) levels

/-- What stands where a name is expected and is none. -/
def improperName : Token → Node
  | .null => .null
  | .boolean b => .boolean b
  | .number n => .number n
  | .openArray => .array [] (.stopped .malformed)
  | .openObject => .object [] (.stopped .malformed)
  | .brokenWord null s => .brokenWord null s
  | .brokenNumber s => .brokenNumber s
  | _ => .nothing .malformed

/-- One token more. -/
def Growth.step (g : Growth) (t : Token) : Growth :=
  match g with
  | .grown n _ => .grown n true
  | .growing [] => atValue t []
  | .growing (level :: levels) =>
    match level, t with
    | .item [] true, .closeArray => plug (.array [] .closed) levels
    | .item items first, t => atValue t (.item items first :: levels)
    | .afterItem items, .comma => .growing (.item items false :: levels)
    | .afterItem items, .closeArray => plug (.array items.reverse .closed) levels
    | .afterItem items, _ =>
      cut .malformed (.array items.reverse (.stopped .malformed)) levels
    | .name members _, .text pieces => .growing (.colon members (.text pieces .closed) :: levels)
    | .name [] true, .closeObject => plug (.object [] .closed) levels
    | .name members first, .brokenText pieces s =>
      cut s (.text pieces (.stopped s)) (.name members first :: levels)
    | .name members first, t => cut .malformed (improperName t) (.name members first :: levels)
    | .colon members k, .colon => .growing (.value members k :: levels)
    | .colon members k, _ => cut .malformed (.nothing .malformed) (.colon members k :: levels)
    | .value members k, t => atValue t (.value members k :: levels)
    | .afterMember members, .comma => .growing (.name members false :: levels)
    | .afterMember members, .closeObject => plug (.object members.reverse .closed) levels
    | .afterMember members, _ =>
      cut .malformed (.object members.reverse (.stopped .malformed)) levels

/-- The tree when the document ends here, and whether anything came behind its value. -/
def Growth.finish : Growth → Node × Bool
  | .grown n more => (n, more)
  | .growing levels =>
    let end_ := match levels with
      | .item [] true :: outer => cut .unfinished (.array [] (.stopped .unfinished)) outer
      | .afterItem items :: outer =>
        cut .unfinished (.array items.reverse (.stopped .unfinished)) outer
      | .name [] true :: outer => cut .unfinished (.object [] (.stopped .unfinished)) outer
      | .afterMember members :: outer =>
        cut .unfinished (.object members.reverse (.stopped .unfinished)) outer
      | levels => cut .unfinished (.nothing .unfinished) levels
    match end_ with
    | .grown n _ => (n, false)
    | .growing _ => (.nothing .unfinished, false)

def Growth.run (g : Growth) (ts : List Token) : Growth := ts.foldl step g

/-- The tree of the first value of a document, and whether more than blanks follow it. -/
def parse (bytes : List UInt8) : Node × Bool := ((Growth.growing []).run (tokens bytes)).finish

theorem Growth.run_append (g : Growth) (a b : List Token) : g.run (a ++ b) = (g.run a).run b :=
  List.foldl_append

end TrackResolver.Json
