import TrackResolver.Context.Json
import TrackResolver.Song.Json
import TrackResolver.Http.Fault
import TrackResolver.Http.MediaType

/-!
# The bodies of requests

A body has to say that it is JSON, has to be no longer than two mebibytes, and has to begin with a
value that fits; in this order. What stands behind the value is not looked at.

`SearchRequest` and `RetrieveRequest` are the bodies of the service's `search` and `retrieve` handlers.
-/
namespace TrackResolver.Http

open Json (Reader Node field requiredField readText readOption readList)
open Reading (Record)

/-- What a search is asked with. -/
structure SearchRequest where
  engines : Option (List String) := none
  song : Song
  context : Option Overrides := none

def SearchRequest.record : Record Node SearchRequest where
  name := "SearchRequest"
  blank := { song := { name := "" } }
  fields :=
    [field "engines" (readOption (readList readText)) fun engines r => { r with engines },
     requiredField "song" Song.read fun song r => { r with song },
     field "context" (readOption Overrides.read) fun context r => { r with context }]

def SearchRequest.read : Reader SearchRequest := Json.readRecord record

/-- What a retrieval is asked with. -/
structure RetrieveRequest where
  found : Found
  context : Option Overrides := none

def RetrieveRequest.record : Record Node RetrieveRequest where
  name := "RetrieveRequest"
  blank := { found := { source := "", identifier := "" } }
  fields :=
    [requiredField "search_info" Found.read fun found r => { r with found },
     field "context" (readOption Overrides.read) fun context r => { r with context }]

def RetrieveRequest.read : Reader RetrieveRequest := Json.readRecord record

/-- The greatest length of a body, in bytes. -/
def bodyLimit : Nat := 2097152

/-- Reads the body of a request. -/
def Request.decode {α : Type} (read : Reader α) (r : Request) : Except BodyFault α :=
  if !((r.header? "content-type").any MediaType.isJson) then .error .wrongType
  else if bodyLimit < r.body.length then .error .tooLarge
  else match Json.readFirst read r.body with
    | .ok a => .ok a
    | .error (.data _) => .error .misfit
    | .error (.stopped _) => .error .malformed

end TrackResolver.Http
