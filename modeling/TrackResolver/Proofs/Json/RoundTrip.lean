import TrackResolver.Context.Json
import TrackResolver.Proofs.Json.Objects
import TrackResolver.Song.Json

/-!
# What is written is read back

Songs, what is found of them and contexts come back from their JSON text as they were: with every
character of every text, the whole range of playing times, and each part that is there told from one
that is left out.

Results:
* `Song.madeOf`, `Found.madeOf`, `Context.madeOf`: the members of each record, in which a part that is
  left out is no member.
* `json_restores`: all of them.
-/
namespace TrackResolver

open Json

/-! ## Songs -/

theorem reads_artist (a : Artist) : Reads Artist.read a.toJson a := by
  let id : Member Artist.record := .ofField "id" rfl (reads_text a.id)
  let name : Member Artist.record := .ofField "name" rfl (reads_text a.name)
  have h : MadeOf [id, name] a.toJson a :=
    .pair (show "id" ≠ "name" by decide) (fun _ => rfl) (show ["name"] ⊆ ["id", "name"] by simp)
  exact h.reads

theorem reads_album (a : Album) : Reads Album.read a.toJson a := by
  let id : Member Album.record := .ofField "id" rfl (reads_text a.id)
  let name : Member Album.record := .ofField "name" rfl (reads_text a.name)
  have h : MadeOf [id, name] a.toJson a :=
    .pair (show "id" ≠ "name" by decide) (fun _ => rfl) (show ["name"] ⊆ ["id", "name"] by simp)
  exact h.reads

namespace Song

def members (s : Song) : List (Member record) := List.flatten
  [[.ofField "id" rfl (reads_text s.id), .ofField "name" rfl (reads_text s.name)],
   (s.duration.map fun ms => .ofField "duration" rfl ((reads_int64 ms).some (by simp))).toList,
   [.ofField "artists" rfl (Reads.list reads_artist s.artists)],
   (s.album.map fun a => .ofField "album" rfl ((reads_album a).some (by simp [Album.toJson]))).toList,
   (s.extras.map fun d =>
     .ofField "context" rfl ((Reads.dict reads_text d).some (by simp [Value.ofDict]))).toList]

theorem requiredNames_record : requiredNames record = ["name"] := rfl

theorem madeOf (s : Song) : MadeOf s.members s.toJson s := by
  obtain ⟨id, name, duration, artists, album, extras⟩ := s
  cases duration <;> cases album <;> cases extras <;> exact {
    nodup := by simp [members, Member.ofField]
    commutes := by simp [members, Member.ofField, Member.Commutes]
    required := by simp [members, Member.ofField, requiredNames_record]
    written := rfl
    value := rfl }

theorem reads (s : Song) : Reads read s.toJson s := s.madeOf.reads

end Song

/-! ## What is found -/

theorem reads_playable (p : Playable) : Reads Playable.read p.toJson p := by
  let source : Member Playable.record := .ofField "source" rfl (reads_text p.source)
  let url : Member Playable.record := .ofField "url" rfl (reads_text p.url)
  have h : MadeOf [source, url] p.toJson p :=
    .pair (show "source" ≠ "url" by decide) (fun _ => rfl)
      (show ["source", "url"] ⊆ ["source", "url"] by simp)
  exact h.reads

namespace Found

def members (f : Found) : List (Member record) := List.flatten
  [[.ofField "source" rfl (reads_text f.source), .ofField "identifier" rfl (reads_text f.identifier)],
   (f.song.map fun s => .ofField "song" rfl (s.reads.some (by simp [Song.toJson]))).toList,
   (f.link.map fun p =>
     .ofField "pre_retrieve_result" rfl
       ((reads_playable p).some (by simp [Playable.toJson]))).toList]

theorem requiredNames_record : requiredNames record = ["source", "identifier"] := rfl

theorem madeOf (f : Found) : MadeOf f.members f.toJson f := by
  obtain ⟨source, identifier, song, link⟩ := f
  cases song <;> cases link <;> exact {
    nodup := by simp [members, Member.ofField]
    commutes := by simp [members, Member.ofField, Member.Commutes]
    required := by simp [members, Member.ofField, requiredNames_record]
    written := rfl
    value := rfl }

theorem reads (f : Found) : Reads read f.toJson f := f.madeOf.reads

end Found

/-! ## Contexts -/

/-- A mode goes by the first of its names that is written small. -/
theorem reads_mode (m : SearchMode) : Reads SearchMode.read m.toJson m := by
  intro w hw
  cases hw
  have hname := decodeText_charPieces m.text
  rw [SearchMode.toJson, Value.node, textNode, SearchMode.read, readChoice, hname]
  cases m <;> rfl

namespace Context

/-- A proxy is always written, and is `null` if there is none. -/
theorem reads_proxy (proxy : Option String) :
    Reads (readOption readText) (proxy.elim .null .text) proxy := by
  cases proxy with
  | none => exact reads_none readText
  | some uri => exact (reads_text uri).some (by simp)

theorem reads_settings (s : Settings) : Reads Settings.read s.toJson s := Reads.dict reads_text s

def members (c : Context) : List (Member record) :=
  [.ofField "proxy_uri" rfl (reads_proxy c.proxy), .ofField "enable_flac" rfl (reads_boolean c.flac),
   .ofField "search_mode" rfl (reads_mode c.mode),
   .ofField "config" rfl (Reads.dict reads_settings c.settings)]

theorem madeOf (c : Context) : MadeOf c.members c.toJson c where
  nodup := by simp [members, Member.ofField]
  commutes := by simp [members, Member.ofField, Member.Commutes]
  required := by
    have hnone : requiredNames record = [] := rfl
    simp [hnone]
  written := by
    obtain ⟨proxy, flac, mode, settings⟩ := c
    cases proxy <;> rfl
  value := rfl

theorem reads (c : Context) : Reads read c.toJson c := c.madeOf.reads

end Context

/-! ## Documents -/

/-- What `write` writes is read back by `read`. -/
structure Restores {α : Type} (write : α → Value) (read : Reader α) : Prop where
  /-- As it is written. -/
  written : ∀ a, readWhole read (write a).render.toUTF8.data.toList = .ok a
  /-- With the members of the objects in it in any order. -/
  rearranged : ∀ a w, (write a).Rearranges w → readWhole read w.render.toUTF8.data.toList = .ok a
  /-- No two values are written alike. -/
  injective : ∀ a b, (write a).render = (write b).render → a = b

theorem restores_of_reads {α : Type} {write : α → Value} {read : Reader α}
    (h : ∀ a, Reads read (write a) a) : Restores write read where
  written a := (h a).readWhole (.same _)
  rearranged a _ hw := (h a).readWhole hw
  injective a b hrender := by
    have ha := (h a).readWhole (.same _)
    have hb := (h b).readWhole (.same _)
    rw [hrender, hb] at ha
    exact (Except.ok.inj ha).symm

/-- **What is written in JSON is read back as it was**, be it a song, a part of one, what is found of
it, a context or a mode, and in whatever order the members of its objects are written. -/
theorem json_restores :
    Restores Song.toJson Song.read ∧ Restores Artist.toJson Artist.read ∧
    Restores Album.toJson Album.read ∧ Restores Found.toJson Found.read ∧
    Restores Playable.toJson Playable.read ∧ Restores Context.toJson Context.read ∧
    Restores SearchMode.toJson SearchMode.read :=
  ⟨restores_of_reads Song.reads, restores_of_reads reads_artist, restores_of_reads reads_album,
    restores_of_reads Found.reads, restores_of_reads reads_playable, restores_of_reads Context.reads,
    restores_of_reads reads_mode⟩

/-- No extras are nothing, and empty extras are an empty object. -/
example :
    (Song.toJson { name := "\t", duration := some (-1) }).render =
      "\x7b\"id\":\"\",\"name\":\"\\t\",\"duration\":-1,\"artists\":[]\x7d" ∧
    (Song.toJson { name := "é", extras := some .empty }).render =
      "\x7b\"id\":\"\",\"name\":\"é\",\"artists\":[],\"context\":\x7b\x7d\x7d" := by
  decide

end TrackResolver
