import TrackResolver.Reading.Fault

/-!
# Records

A `Record` describes how a value with named fields is read: from a map by the names, or from a
sequence by the order of its fields. A field that is left out keeps the value it has in `blank`,
unless it is required.
-/
namespace TrackResolver.Reading

/-- A field of the record type `τ`, read from a document of type `ν`. -/
structure Field (ν τ : Type) where
  name : String
  required : Bool := false
  /-- Reads the field and puts it into the record. -/
  read : ν → τ → Except Fault τ

structure Record (ν τ : Type) where
  name : String
  /-- The record with no field given. -/
  blank : τ
  fields : List (Field ν τ)

namespace Record

variable {ν τ : Type}

/-- How the record is named where it is wanted. -/
def wanted (r : Record ν τ) : String := "struct " ++ r.name

def field? (r : Record ν τ) (name : String) : Option (Field ν τ) := r.fields.find? (·.name = name)

/-- The first required field of `fields` that is not among the names seen. -/
def missing? (fields : List (Field ν τ)) (seen : List String) : Option (Field ν τ) :=
  fields.find? fun f => f.required && !seen.contains f.name

/-- Complains about a sequence that ended before a required field; `left` are the fields for which
there was no item. -/
def checkLength (r : Record ν τ) (left : List (Field ν τ)) : Except Fault Unit :=
  match left.findIdx? (·.required) with
  | none => .ok ()
  | some i =>
    .error (.data (.wrongLength (r.fields.length - left.length + i)
      (r.wanted ++ " with " ++ toString r.fields.length ++ " elements")))

end Record

end TrackResolver.Reading
