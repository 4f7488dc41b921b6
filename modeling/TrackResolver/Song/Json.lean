import TrackResolver.Song
import TrackResolver.Json.Decode
import TrackResolver.Json.Value

/-!
# Songs as JSON

How songs, results and links are written, and how they are read. A part that a song does not have is
left out; a list of artists is always written, and so is an identifier, even an empty one.
-/
namespace TrackResolver

open Json (Value Reader Node field requiredField readText readOption readList readDict)
open Reading (Record)

/-! ## Writing -/

def Artist.toJson (a : Artist) : Value := .object [("id", .text a.id), ("name", .text a.name)]

def Album.toJson (a : Album) : Value := .object [("id", .text a.id), ("name", .text a.name)]

def Song.toJson (s : Song) : Value :=
  .object
    ([("id", .text s.id), ("name", .text s.name)] ++
      Value.optional "duration" (fun ms => .integer ms.toInt) s.duration ++
      [("artists", .list (s.artists.map Artist.toJson))] ++
      Value.optional "album" Album.toJson s.album ++
      Value.optional "context" (Value.ofDict .text) s.extras)

def Playable.toJson (p : Playable) : Value :=
  .object [("source", .text p.source), ("url", .text p.url)]

def Found.toJson (f : Found) : Value :=
  .object
    ([("source", .text f.source), ("identifier", .text f.identifier)] ++
      Value.optional "song" Song.toJson f.song ++
      Value.optional "pre_retrieve_result" Playable.toJson f.link)

/-! ## Reading -/

def Artist.record : Record Node Artist where
  name := "Artist"
  blank := ⟨"", ""⟩
  fields :=
    [field "id" readText fun id a => { a with id },
     requiredField "name" readText fun name a => { a with name }]

def Artist.read : Reader Artist := Json.readRecord record

def Album.record : Record Node Album where
  name := "Album"
  blank := ⟨"", ""⟩
  fields :=
    [field "id" readText fun id a => { a with id },
     requiredField "name" readText fun name a => { a with name }]

def Album.read : Reader Album := Json.readRecord record

def Song.record : Record Node Song where
  name := "Song"
  blank := { name := "" }
  fields :=
    [field "id" readText fun id s => { s with id },
     requiredField "name" readText fun name s => { s with name },
     field "duration" (readOption Json.readInt64) fun duration s => { s with duration },
     field "artists" (readList Artist.read) fun artists s => { s with artists },
     field "album" (readOption Album.read) fun album s => { s with album },
     field "context" (readOption (readDict readText)) fun extras s => { s with extras }]

def Song.read : Reader Song := Json.readRecord record

def Playable.record : Record Node Playable where
  name := "RetrievedSongInfo"
  blank := ⟨"", ""⟩
  fields :=
    [requiredField "source" readText fun source p => { p with source },
     requiredField "url" readText fun url p => { p with url }]

def Playable.read : Reader Playable := Json.readRecord record

def Found.record : Record Node Found where
  name := "SongSearchInformation"
  blank := { source := "", identifier := "" }
  fields :=
    [requiredField "source" readText fun source f => { f with source },
     requiredField "identifier" readText fun identifier f => { f with identifier },
     field "song" (readOption Song.read) fun song f => { f with song },
     field "pre_retrieve_result" (readOption Playable.read) fun link f => { f with link }]

def Found.read : Reader Found := Json.readRecord record

end TrackResolver
