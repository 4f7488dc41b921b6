import TrackResolver.Engine
import TrackResolver.Proxy

/-!
# Engines that follow a script

A `Script` says how long an engine takes to search, what it finds then, and what it answers when it
is asked for a link. Scripts serve to rehearse what a search does with engines of every kind.

They are no part of the service, which has one engine of its own.
-/
namespace TrackResolver

/-- What a scripted engine does when the time of its search has come. -/
inductive SearchAct where
  /-- Finds the song; without an identifier it makes one up. -/
  | succeed (identifier : Option String) (withSong : Bool) (hint hintSource : Option String)
  /-- Answers with a result that carries this name. -/
  | pose (source : String)
  | fail (error : EngineError)
  | hang
  | die
  /-- Finds the value of one of its own settings. -/
  | setting (key : String) (purpose : Option String)
  | keyword
  /-- Finds one of the free values of the song. -/
  | extra (key : String)
  /-- Knows one title only. -/
  | title (name : String)
  /-- Finds a description of what it sees of the context. -/
  | describe
  /-- Finds out whether there is a proxy. -/
  | proxy

/-- What a scripted engine does to give a link. -/
inductive RetrieveAct where
  | url
  /-- Takes the host from one of its own settings. -/
  | setting (key : String) (purpose : Option String)
  | describe
  | fail (error : EngineError)

structure Script where
  id : String
  after : Duration := .zero
  deadline : Option Duration := none
  search : SearchAct := .succeed none false none none
  retrieve : RetrieveAct := .url

/-- A view in words. -/
def View.describe (v : View) : String :=
  let truth (b : Bool) : String := if b then "true" else "false"
  "engine=" ++ v.engine ++ ";proxy=" ++ v.proxy.getD "-" ++ ";flac=" ++ truth v.flac ++
    ";mode=" ++ v.mode.text ++ ";empty=" ++ truth v.settings.isEmpty ++
    ";cancelled=" ++ truth v.cancelled

/-- One of the engine's own settings. Without it the engine complains if it can say what the setting
is for, and else finds nothing. -/
def View.demand (v : View) (key : String) : Option String → Except EngineError String
  | some purpose => (v.require key purpose).mapError EngineError.ofSetup
  | none => match v.settings.get? key with
    | some value => .ok value
    | none => .error .noMatch

namespace Script

variable (s : Script)

/-- A result of this engine. -/
def result (identifier : String) : Found := { source := s.id, identifier }

/-- How a search ends that does not hang. -/
def conclude (song : Song) (v : View) : SearchAct → Ending Found
  | .succeed identifier withSong hint hintSource =>
    .answered (.ok
      { source := s.id
        identifier := identifier.getD (s.id ++ "-track")
        song := if withSong then some song else none
        link := hint.map fun url => ⟨hintSource.getD s.id, url⟩ })
  | .pose source => .answered (.ok { source, identifier := s.id ++ "-track" })
  | .fail e => .answered (.error e)
  | .hang | .die => .died
  | .setting key purpose => .answered ((v.demand key purpose).map s.result)
  | .keyword => .answered (.ok (s.result song.keyword))
  | .extra key =>
    .answered <| match song.extra? key with
      | some value => .ok (s.result value)
      | none => .error .noMatch
  | .title name =>
    .answered (if song.name = name then .ok (s.result (s.id ++ "-1")) else .error .noMatch)
  | .describe => .answered (.ok (s.result v.describe))
  | .proxy =>
    .answered (v.proxyServer.map fun server =>
      s.result (if server.isSome then "proxy" else "direct"))

/-- The run of a search, before any deadline. -/
def work (song : Song) (v : View) : Run Found :=
  match s.search with
  | .hang => .hangs
  | act => .finishes s.after (s.conclude song v act)

/-- The link to `identifier` on `host`. -/
def linkOn (host identifier : String) : Playable :=
  ⟨s.id, "https://" ++ host ++ "/" ++ identifier⟩

def answer (f : Found) (v : View) : Except EngineError Playable :=
  match s.retrieve with
  | .url => do
    f.ensureFrom s.id
    return s.linkOn (s.id ++ ".example") f.identifier
  | .setting key purpose => do
    f.ensureFrom s.id
    let host ← v.demand key purpose
    return s.linkOn host f.identifier
  | .describe => .ok ⟨s.id, v.describe⟩
  | .fail e => .error e

def engine : Engine where
  id := s.id
  search song v := match s.deadline with
    | some d => (s.work song v).within d
    | none => s.work song v
  retrieve := s.answer

end Script

end TrackResolver
