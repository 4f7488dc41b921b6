import TrackResolver.Text.Quoted

/-!
# What is wrong with a document

A document is `malformed` where a character cannot stand, `unfinished` where it ends too early, and
its data do not fit where a well-formed part is not what the reader wants. `Mismatch.message` is the
text of the last kind; the others are told apart only.
-/
namespace TrackResolver.Reading

/-- The kind of value that was found, as far as it is told. -/
inductive Shape where
  | null
  | boolean (b : Bool)
  | integer (n : Int)
  /-- A number with a fraction or an exponent, as it is written. -/
  | decimal (written : String)
  | text (s : String)
  | sequence
  | map
deriving DecidableEq

def Shape.message : Shape → String
  | null => "null"
  | boolean b => "boolean `" ++ (if b then "true" else "false") ++ "`"
  | integer n => "integer `" ++ toString n ++ "`"
  | decimal written => "floating point `" ++ written ++ "`"
  | text s => "string " ++ Text.quoted s
  | sequence => "sequence"
  | map => "map"

/-- Why the data do not fit. -/
inductive Mismatch where
  | wrongKind (found : Shape) (wanted : String)
  | wrongValue (found : Shape) (wanted : String)
  | wrongLength (length : Nat) (wanted : String)
  | missing (field : String)
  | duplicate (field : String)
  | unknownVariant (found : String) (known : List String)
  /-- A choice has to be a name, or a table with one entry. -/
  | notNameOrTable
  | noEntry
  | severalEntries
  /-- What goes with a plain name has to be an empty table. -/
  | notTable (found : String)
  | notEmptyTable
  | notEmptyArray
deriving DecidableEq

def Mismatch.message : Mismatch → String
  | wrongKind found wanted => "invalid type: " ++ found.message ++ ", expected " ++ wanted
  | wrongValue found wanted => "invalid value: " ++ found.message ++ ", expected " ++ wanted
  | wrongLength n wanted => "invalid length " ++ toString n ++ ", expected " ++ wanted
  | missing field => "missing field `" ++ field ++ "`"
  | duplicate field => "duplicate field `" ++ field ++ "`"
  | unknownVariant found known =>
    "unknown variant `" ++ found ++ "`, expected one of " ++
      ", ".intercalate (known.map fun k => "`" ++ k ++ "`")
  | notNameOrTable => "wanted string or table"
  | noEntry => "wanted exactly 1 element, found 0 elements"
  | severalEntries => "wanted exactly 1 element, more than 1 element"
  | notTable found => "expected table, found " ++ found
  | notEmptyTable => "expected empty table"
  | notEmptyArray => "expected empty array"

/-- Where a text stops being well-formed. -/
inductive Stop where
  | malformed
  | unfinished
deriving DecidableEq, Repr, Inhabited

/-- Why a document cannot be read. -/
inductive Fault where
  | data (why : Mismatch)
  | stopped (s : Stop)
deriving DecidableEq

end TrackResolver.Reading
