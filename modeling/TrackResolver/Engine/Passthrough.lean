import TrackResolver.Engine
import TrackResolver.Text.Blank

/-!
# The engine that trusts the caller

`passthrough` finds the link that the song itself carries among its free values, under the name that
the setting `context_key` gives. The link is also the identifier, so retrieving needs nothing else.

This is the service's `PassthroughEngine`.
-/
namespace TrackResolver.Passthrough

open Text (trim)

/-- The name of the engine. -/
def name : String := "passthrough"

/-- The name of the free value that holds the link. -/
def linkKey (v : View) : String := v.getD "context_key" "url"

/-- The link that the song carries, unless it is blank. -/
def link? (song : Song) (v : View) : Option String :=
  ((song.extra? (linkKey v)).map trim).filter fun url => !url.isEmpty

/-- What is found of a song with this link. -/
def found (song : Song) (url : String) : Found where
  source := name
  identifier := url
  song := some song
  link := some ⟨name, url⟩

def search (song : Song) (v : View) : Except EngineError Found :=
  match link? song v with
  | none => .error .noMatch
  | some url => .ok (found song url)

/-- The link that the identifier is. -/
def resolve (f : Found) : Except EngineError Playable :=
  let url := trim f.identifier
  if url.isEmpty then .error (.provider "empty identifier") else .ok ⟨name, url⟩

def engine : Engine where
  id := name
  search song v := .finishes .zero (.answered (search song v))
  retrieve f _ := do
    f.ensureFrom name
    resolve f

end TrackResolver.Passthrough
