import TrackResolver.Context.Json
import TrackResolver.Song.Json
import TrackResolver.Proofs.Json.Edits

/-!
# The members of each record

What the records of songs, of what is found of them and of contexts know, and by which form each of
their members is read.
-/
namespace TrackResolver

open Json

namespace Artist

def known : List (Known Artist) :=
  [Form.text.known "id" false fun id a => { a with id },
   Form.text.known "name" true fun name a => { a with name }]

theorem specified : Specified record known where
  fields := rfl
  nodup := by decide
  commutes := by simp [known, Known.Commutes, Form.known]
  follows := by simp [known, Form.follows_known]
  optional := by simp [known, Form.known]

def form : Form Artist := .record specified

end Artist

namespace Album

def known : List (Known Album) :=
  [Form.text.known "id" false fun id a => { a with id },
   Form.text.known "name" true fun name a => { a with name }]

theorem specified : Specified record known where
  fields := rfl
  nodup := by decide
  commutes := by simp [known, Known.Commutes, Form.known]
  follows := by simp [known, Form.follows_known]
  optional := by simp [known, Form.known]

def form : Form Album := .record specified

end Album

namespace Song

def known : List (Known Song) :=
  [Form.text.known "id" false fun id s => { s with id },
   Form.text.known "name" true fun name s => { s with name },
   (Form.plain readInt64).option.known "duration" false fun duration s => { s with duration },
   Artist.form.list.known "artists" false fun artists s => { s with artists },
   Album.form.option.known "album" false fun album s => { s with album },
   Form.text.dict.option.known "context" false fun extras s => { s with extras }]

theorem specified : Specified record known where
  fields := rfl
  nodup := by decide
  commutes := by simp [known, Known.Commutes, Form.known]
  follows := by simp [known, Form.follows_known]
  optional := by simp [known, Form.known, record]

def form : Form Song := .record specified

end Song

namespace Playable

def known : List (Known Playable) :=
  [Form.text.known "source" true fun source p => { p with source },
   Form.text.known "url" true fun url p => { p with url }]

theorem specified : Specified record known where
  fields := rfl
  nodup := by decide
  commutes := by simp [known, Known.Commutes, Form.known]
  follows := by simp [known, Form.follows_known]
  optional := by simp [known, Form.known]

def form : Form Playable := .record specified

end Playable

namespace Found

def known : List (Known Found) :=
  [Form.text.known "source" true fun source f => { f with source },
   Form.text.known "identifier" true fun identifier f => { f with identifier },
   Song.form.option.known "song" false fun song f => { f with song },
   Playable.form.option.known "pre_retrieve_result" false fun link f => { f with link }]

theorem specified : Specified record known where
  fields := rfl
  nodup := by decide
  commutes := by simp [known, Known.Commutes, Form.known]
  follows := by simp [known, Form.follows_known]
  optional := by simp [known, Form.known, record]

def form : Form Found := .record specified

end Found

namespace Context

def known : List (Known Context) :=
  [Form.text.option.known "proxy_uri" false fun proxy c => { c with proxy },
   (Form.plain readBoolean).known "enable_flac" false fun flac c => { c with flac },
   (Form.plain SearchMode.read).known "search_mode" false fun mode c => { c with mode },
   Form.text.dict.dict.known "config" false fun settings c => { c with settings }]

theorem specified : Specified record known where
  fields := rfl
  nodup := by decide
  commutes := by simp [known, Known.Commutes, Form.known]
  follows := by simp [known, Form.follows_known]
  optional := by simp [known, Form.known, record]

def form : Form Context := .record specified

end Context

namespace Overrides

def known : List (Known Overrides) :=
  [Form.text.option.known "proxy_uri" false fun proxy o => { o with proxy },
   (Form.plain readBoolean).option.known "enable_flac" false fun flac o => { o with flac },
   (Form.plain SearchMode.read).option.known "search_mode" false fun mode o => { o with mode },
   Form.text.dict.dict.known "config" false fun settings o => { o with settings }]

theorem specified : Specified record known where
  fields := rfl
  nodup := by decide
  commutes := by simp [known, Known.Commutes, Form.known]
  follows := by simp [known, Form.follows_known]
  optional := by simp [known, Form.known, record]

def form : Form Overrides := .record specified

end Overrides

end TrackResolver
