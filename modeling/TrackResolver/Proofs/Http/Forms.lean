import TrackResolver.Http.Body
import TrackResolver.Proofs.Json.Forms

/-!
# What counts in a document

Everything that is read as an object with members of fixed names is read by those members alone: the
songs and what is found of them, the contexts, and the bodies of requests that are put together out of
them.

Results:
* `SearchRequest.specified`, `RetrieveRequest.specified`: the members of the two bodies.
* `known_members_only`: what makes no difference, and what is not accepted.
-/
namespace TrackResolver

open Json

namespace Http

namespace SearchRequest

def known : List (Known SearchRequest) :=
  [Form.text.list.option.known "engines" false fun engines r => { r with engines },
   Song.form.known "song" true fun song r => { r with song },
   Overrides.form.option.known "context" false fun context r => { r with context }]

theorem specified : Specified record known where
  fields := rfl
  nodup := by decide
  commutes := by simp [known, Known.Commutes, Form.known]
  follows := by simp [known, Form.follows_known]
  optional := by simp [known, Form.known, Song.form, formatOf, record]

def form : Form SearchRequest := .record specified

end SearchRequest

namespace RetrieveRequest

def known : List (Known RetrieveRequest) :=
  [Found.form.known "search_info" true fun found r => { r with found },
   Overrides.form.option.known "context" false fun context r => { r with context }]

theorem specified : Specified record known where
  fields := rfl
  nodup := by decide
  commutes := by simp [known, Known.Commutes, Form.known]
  follows := by simp [known, Form.follows_known]
  optional := by simp [known, Form.known, Found.form, formatOf, record]

def form : Form RetrieveRequest := .record specified

end RetrieveRequest

end Http

open Http

theorem Json.Specified.knownMembersOnly {τ : Type} {r : Reading.Record Node τ} {known : List (Known τ)}
    (h : Specified r known) : KnownMembersOnly (readRecord r) (formatOf known) :=
  h.follows_record.knownMembersOnly (minds_readRecord r)

/-- **Only known members count.** A text that is decoded as a song, as something found or a link, as a
context or overrides, or as the body of a request is decoded as the same after its members are put in
another order, members of other names are put in with whatever value, blanks are put between its
tokens, and optional members that are `null` are put in or left out, in all objects in it that are
records and however often. With a known member twice in one of them it is not decoded. In a map, where
no name is known, the last member of a name is kept. -/
theorem known_members_only :
    KnownMembersOnly Song.read Song.form.format ∧
    KnownMembersOnly Found.read Found.form.format ∧
    KnownMembersOnly Playable.read Playable.form.format ∧
    KnownMembersOnly Context.read Context.form.format ∧
    KnownMembersOnly Overrides.read Overrides.form.format ∧
    KnownMembersOnly SearchRequest.read SearchRequest.form.format ∧
    KnownMembersOnly RetrieveRequest.read RetrieveRequest.form.format ∧
    LastWins readText ∧ LastWins Settings.read :=
  ⟨Song.specified.knownMembersOnly, Found.specified.knownMembersOnly,
    Playable.specified.knownMembersOnly, Context.specified.knownMembersOnly,
    Overrides.specified.knownMembersOnly, SearchRequest.specified.knownMembersOnly,
    RetrieveRequest.specified.knownMembersOnly, lastWins readText, lastWins Settings.read⟩

example : SearchRequest.form.format =
    .record [("engines", .option (.list .text)),
      ("song", .record [("id", .text), ("name", .text), ("duration", .option .plain),
        ("artists", .list (.record [("id", .text), ("name", .text)])),
        ("album", .option (.record [("id", .text), ("name", .text)])),
        ("context", .option (.dict .text))]),
      ("context", .option (.record [("proxy_uri", .option .text), ("enable_flac", .option .plain),
        ("search_mode", .option .plain), ("config", .dict (.dict .text))]))] := rfl

end TrackResolver
