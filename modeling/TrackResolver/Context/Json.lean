import TrackResolver.Context
import TrackResolver.Json.Decode
import TrackResolver.Json.Value

/-!
# Contexts as JSON

A whole context and the overrides of one request are read from the same names. In a whole context a
name that is left out takes its default and only the proxy may be `null`; in overrides all but the
settings may be `null`, which is the same as leaving them out.
-/
namespace TrackResolver

open Json (Value Reader Node field readText readOption readDict readBoolean)
open Reading (Record)

def SearchMode.toJson (m : SearchMode) : Value := .text m.text

def SearchMode.read : Reader SearchMode := Json.readChoice spellings

def Settings.toJson (s : Settings) : Value := Value.ofDict .text s

def Settings.read : Reader Settings := readDict readText

namespace Context

def toJson (c : Context) : Value :=
  .object
    [("proxy_uri", match c.proxy with | some uri => .text uri | none => .null),
     ("enable_flac", .boolean c.flac),
     ("search_mode", c.mode.toJson),
     ("config", Value.ofDict Settings.toJson c.settings)]

def record : Record Node Context where
  name := "Context"
  blank := {}
  fields :=
    [field "proxy_uri" (readOption readText) fun proxy c => { c with proxy },
     field "enable_flac" readBoolean fun flac c => { c with flac },
     field "search_mode" SearchMode.read fun mode c => { c with mode },
     field "config" (readDict Settings.read) fun settings c => { c with settings }]

def read : Reader Context := Json.readRecord record

end Context

namespace Overrides

def record : Record Node Overrides where
  name := "ApiContext"
  blank := {}
  fields :=
    [field "proxy_uri" (readOption readText) fun proxy o => { o with proxy },
     field "enable_flac" (readOption readBoolean) fun flac o => { o with flac },
     field "search_mode" (readOption SearchMode.read) fun mode o => { o with mode },
     field "config" (readDict Settings.read) fun settings o => { o with settings }]

def read : Reader Overrides := Json.readRecord record

end Overrides

end TrackResolver
