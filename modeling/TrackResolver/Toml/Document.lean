import TrackResolver.Toml.Number
import TrackResolver.Toml.Moment
import TrackResolver.Toml.Tree

/-!
# TOML documents

A document is a list of lines, each a header or a key with its value; `expressions` reads them and
`parse` builds the tables that they describe.
-/
namespace TrackResolver.Toml

/-! ## Values -/

def word (w : String) (v : Value) : Scan Value := fun cs =>
  if w.toList.isPrefixOf cs then some (v, cs.drop w.length) else none

/-- The items of an array, each behind a comma but the first; a comma may also stand behind the
last. -/
def arrayItems (value : Scan Value) : Nat → List Value → Scan Value
  | 0, _, _ => none
  | fuel + 1, done, cs =>
    match skipGap cs with
    | ']' :: cs => some (.array done.reverse, cs)
    | cs => do
      let (v, cs) ← value cs
      match skipGap cs with
      | ',' :: cs => arrayItems value fuel (v :: done) cs
      | ']' :: cs => some (.array (v :: done).reverse, cs)
      | _ => none

/-- A key with its value, behind the blanks. -/
def keyValue (value : Scan Value) : Scan (List String × Value) := fun cs => do
  let (path, cs) ← key cs
  let cs ← expect '=' cs
  let (v, cs) ← value (skipBlanks cs)
  return ((path, v), cs)

/-- Adds a value under all parts of its key. -/
def addAt (path : List String) (v : Value) (origin : Origin) (es : Entries) :
    Option (Origin × Entries) :=
  match path.reverse with
  | [] => none
  | k :: outer => addValue outer.reverse k v origin es

/-- The entries of a table on one line, after `done`. -/
def inlineEntries (value : Scan Value) : Nat → Entries → Scan Value
  | 0, _, _ => none
  | fuel + 1, done, cs => do
    let ((path, v), cs) ← keyValue value cs
    let (_, done) ← addAt path v .declared done
    match skipBlanks cs with
    | ',' :: cs => inlineEntries value fuel done cs
    | '\x7d' :: cs => some (.table (entryValues done), cs)
    | _ => none

/-- A value; arrays and tables in it go at most `depth` deep. -/
def value (depth : Nat) : Scan Value := fun cs =>
  match cs with
  | '[' :: cs => match depth with
    | 0 => none
    | depth + 1 => arrayItems (value depth) (cs.length + 1) [] cs
  | '\x7b' :: cs => match depth with
    | 0 => none
    | depth + 1 =>
      match skipBlanks cs with
      | '\x7d' :: cs => some (.table [], cs)
      | cs => inlineEntries (value depth) (cs.length + 1) [] cs
  | 't' :: _ => word "true" (.boolean true) cs
  | 'f' :: _ => word "false" (.boolean false) cs
  | c :: _ =>
    if c = '"' || c = '\x27' then (quotedText cs).map fun (s, cs) => (.text s, cs)
    else (moment cs).or (number cs)
  | [] => none
termination_by structural depth

/-! ## Lines -/

inductive Expression where
  | keyValue (path : List String) (v : Value)
  /-- A table header. -/
  | header (path : List String)
  /-- A header in double brackets. -/
  | rowHeader (path : List String)

def expression : Scan Expression
  | '[' :: '[' :: cs => do
    let (path, cs) ← key cs
    let cs ← expect ']' (← expect ']' cs)
    return (.rowHeader path, cs)
  | '[' :: cs => do
    let (path, cs) ← key cs
    return (.header path, ← expect ']' cs)
  | cs => do
    let ((path, v), cs) ← keyValue (value depthLimit) cs
    return (.keyValue path v, cs)

/-- The expressions of a document, after `done`. -/
def expressionsFrom : Nat → List Expression → List Char → Option (List Expression)
  | 0, _, _ => none
  | fuel + 1, done, cs =>
    match skipBlanks cs with
    | [] => some done.reverse
    | cs =>
      match lineEnd? cs with
      | some cs => expressionsFrom fuel done cs
      | none => do
        let (e, cs) ← expression cs
        expressionsFrom fuel (e :: done) (← lineEnd? cs)

/-- The expressions of a document. A byte order mark at the beginning does not count. -/
def expressions (cs : List Char) : Option (List Expression) :=
  let cs := match cs with
    | '\uFEFF' :: cs => cs
    | cs => cs
  expressionsFrom (cs.length + 1) [] cs

/-! ## The tables -/

/-- What has been read of a document, and the path of the table that its keys belong to. -/
structure Builder where
  root : Entries := []
  here : List String := []

/-- Changes the table at `path`, which comes from a header. -/
def Builder.change (b : Builder) (path : List String)
    (f : Origin → Entries → Option (Origin × Entries)) : Option Entries :=
  (changeAt false f path .declared b.root).map (·.2)

def Builder.step (b : Builder) : Expression → Option Builder
  | .keyValue path v => do return { b with root := ← b.change b.here (addAt path v) }
  | .header path => match path.reverse with
    | [] => none
    | k :: outer => do return ⟨← b.change outer.reverse (declare k), path⟩
  | .rowHeader path => match path.reverse with
    | [] => none
    | k :: outer => do return ⟨← b.change outer.reverse (addRow k), path⟩

/-- The entries of a document, unless it is not well-formed. -/
def parse (s : String) : Option Value := do
  let b ← (← expressions s.toList).foldlM Builder.step {}
  return .table (entryValues b.root)

end TrackResolver.Toml
