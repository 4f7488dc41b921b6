import TrackResolver.Config
import TrackResolver.Toml.Decode
import TrackResolver.Toml.Document

/-!
# Settings files

How the settings are read from a TOML document.
-/
namespace TrackResolver

open Toml (Value Reader field readText readBoolean readUInt64 readList readDict readRecord)
open Reading (Record)

def RateLimit.record : Record Value RateLimit where
  name := "RateLimitConfig"
  blank := {}
  fields :=
    [field "requests" readUInt64 fun requests r => { r with requests },
     field "per_secs" readUInt64 fun perSeconds r => { r with perSeconds }]

def ServerSettings.record : Record Value ServerSettings where
  name := "ServerConfig"
  blank := {}
  fields :=
    [field "bind_address" readText fun bindAddress s => { s with bindAddress },
     field "rate_limit" (readRecord RateLimit.record) fun rateLimit s => { s with rateLimit }]

def LoggingSettings.record : Record Value LoggingSettings where
  name := "LoggingConfig"
  blank := {}
  fields :=
    [field "level" readText fun level s => { s with level },
     field "log_file" (Toml.readTextAs "path string") fun file s => { s with file := some file }]

/-- The default context as a settings file gives it. -/
def Context.settingsRecord : Record Value Context where
  name := "Context"
  blank := {}
  fields :=
    [field "proxy_uri" readText fun proxy c => { c with proxy := some proxy },
     field "enable_flac" readBoolean fun flac c => { c with flac },
     field "search_mode" (Toml.readChoice SearchMode.spellings) fun mode c => { c with mode },
     field "config" (readDict (readDict readText)) fun settings c => { c with settings }]

namespace Config

def record : Record Value Config where
  name := "TomlConfig"
  blank := {}
  fields :=
    [field "server" (readRecord ServerSettings.record) fun server c => { c with server },
     field "logging" (readRecord LoggingSettings.record) fun logging c => { c with logging },
     field "context" (readRecord Context.settingsRecord) fun context c => { c with context },
     field "engines" (readList readText) fun engines c => { c with engines := some engines }]

/-- The settings in a tree. -/
def read : Reader Config := readRecord record

/-- The settings in the text of a file. -/
def ofText (s : String) : Except Reading.Fault Config :=
  match Toml.parse s with
  | none => .error (.stopped .malformed)
  | some v => read v

end Config

end TrackResolver
