import TrackResolver.Dict

/-!
# Songs and what is found of them

A `Song` is what a search is given. An engine answers with a `Found`, whose `source` names the
engine, and a `Playable` is the link under which the track can be heard.

`Found` is the service's `SongSearchInformation` and `Playable` its `RetrievedSongInfo`. The `keyword`
of a `Song` is the service's, and `extra?` its `context_value`.
-/
namespace TrackResolver

structure Artist where
  id : String := ""
  name : String
deriving DecidableEq, Inhabited

structure Album where
  id : String := ""
  name : String
deriving DecidableEq, Inhabited

/-- The description of a song. -/
structure Song where
  id : String := ""
  name : String
  /-- The playing time in milliseconds. -/
  duration : Option Int64 := none
  /-- The artists in credit order. -/
  artists : List Artist := []
  album : Option Album := none
  /-- Free values that are carried through to the engines untouched. -/
  extras : Option (Dict String) := none
deriving DecidableEq, Inhabited

/-- A link under which a track can be played, and the engine that gave it. -/
structure Playable where
  source : String
  url : String
deriving DecidableEq, Inhabited

/-- A track that the engine `source` found; `identifier` means something to that engine only. -/
structure Found where
  source : String
  identifier : String
  /-- The song as the engine knows it. -/
  song : Option Song := none
  /-- A link that came to light during the search, so that no second call is needed. -/
  link : Option Playable := none
deriving DecidableEq, Inhabited

namespace Song

/-- The name, and after a dash the artists if there are any. -/
def keyword (s : Song) : String :=
  if s.artists.isEmpty then s.name
  else s.name ++ " - " ++ ", ".intercalate (s.artists.map (·.name))

def extra? (s : Song) (key : String) : Option String := s.extras.bind (·.get? key)

end Song

end TrackResolver
