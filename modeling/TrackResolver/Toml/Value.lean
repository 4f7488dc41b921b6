import TrackResolver.Decimal.Layout
import TrackResolver.Reading.Fault

/-!
# TOML values

The tree that a TOML document describes. A table keeps its entries in the order in which they came
to stand. An array of tables under double brackets is told apart from one between brackets.
-/
namespace TrackResolver.Toml

inductive Value where
  | text (s : String)
  | integer (n : Int)
  | float (f : Float)
  | boolean (b : Bool)
  /-- A date, a time or both, in the form in which they are shown. -/
  | moment (shown : String)
  | array (items : List Value)
  /-- An array of tables under double brackets. -/
  | tables (items : List Value)
  | table (entries : List (String × Value))

/-- Numbers are written out, however long, and a tie goes away from zero. -/
def layout : Decimal.Layout := ⟨fun _ => true, .up⟩

namespace Value

/-- How a value is shown where it is not wanted. -/
def shape : Value → Reading.Shape
  | text s => .text s
  | integer n => .integer n
  | float f => .decimal (layout.write f)
  | boolean b => .boolean b
  | moment _ | table _ => .map
  | array _ | tables _ => .sequence

/-- What a value that is no table and no array is called. -/
def kindName : Value → String
  | text _ => "string"
  | integer _ => "integer"
  | float _ => "float"
  | boolean _ => "boolean"
  | moment _ => "datetime"
  | array _ => "array"
  | tables _ => "array of tables"
  | table _ => "table"

/-- The entry under which a date or a time shows its text when it is looked at as a table. -/
def momentKey : String := "$__toml_private_datetime"

/-- The items of a value that is a sequence. -/
def items? : Value → Option (List Value)
  | array items | tables items => some items
  | _ => none

/-- The entries of a value that can be looked at as a table. -/
def entries? : Value → Option (List (String × Value))
  | table entries => some entries
  | moment shown => some [(momentKey, .text shown)]
  | _ => none

end Value

end TrackResolver.Toml
