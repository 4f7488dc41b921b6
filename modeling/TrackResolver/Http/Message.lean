import TrackResolver.Json.Value

/-!
# Requests and responses

A response says its status, the headers that the service sets, and its body, which is JSON if there
is one.
-/
namespace TrackResolver.Http

inductive Method where
  | get
  | head
  | post
  | options
  | other (name : String)
deriving DecidableEq

def Method.ofText (s : String) : Method :=
  match s with
  | "GET" => get
  | "HEAD" => head
  | "POST" => post
  | "OPTIONS" => options
  | s => other s

structure Request where
  method : Method
  /-- The path with whatever is behind it, or a whole address. -/
  target : String
  headers : List (String × String) := []
  body : List UInt8 := []

namespace Request

/-- What is behind the first `://`, if there is one. -/
def behindScheme? : List Char → Option (List Char)
  | ':' :: '/' :: '/' :: cs => some cs
  | _ :: cs => behindScheme? cs
  | [] => none

/-- The path that a target names, with what is behind it. In a whole address it begins at the first
slash behind the host; a host alone, without a scheme, has no path. -/
def pathAndMore (target : List Char) : List Char :=
  match target with
  | '/' :: _ | ['*'] => target
  | _ => match behindScheme? target with
    | some rest => match rest.dropWhile fun c => c ≠ '/' && c ≠ '?' && c ≠ '#' with
      | '/' :: cs => '/' :: cs
      | cs => '/' :: cs
    | none => []

/-- The path, without query and fragment. -/
def path (r : Request) : List Char :=
  (pathAndMore r.target.toList).takeWhile fun c => c ≠ '?' && c ≠ '#'

/-- The value of a header; the case of its name does not matter. -/
def header? (r : Request) (name : String) : Option String :=
  (r.headers.find? fun h => h.1.toLower = name).map (·.2)

end Request

structure Response where
  status : Nat
  headers : List (String × String) := []
  body : Option Json.Value := none

namespace Response

def header? (r : Response) (name : String) : Option String :=
  (r.headers.find? (·.1 = name)).map (·.2)

def withHeader (r : Response) (name value : String) : Response :=
  { r with headers := r.headers ++ [(name, value)] }

/-- A response with a JSON body. -/
def json (status : Nat) (body : Json.Value) : Response :=
  { status, headers := [("content-type", "application/json")], body := some body }

def withoutBody (r : Response) : Response := { r with body := none }

end Response

end TrackResolver.Http
