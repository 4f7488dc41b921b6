import TrackResolver.Proxy.Address
import TrackResolver.Context

/-!
# Proxies

The proxy of a context is given as an address. One without a scheme, or whose scheme names no host,
is taken for the host of an `http` address; if that cannot be read either, the complaint is about
the address as it was given.

`View.proxyServer` is `proxy` of the service's `EngineContext`.
-/
namespace TrackResolver.Proxy

/-- A server to send requests through. -/
structure Server where
  scheme : List Char
  host : List Char

/-- Why there is no server at an address. -/
inductive Refusal where
  | unreadable (fault : Fault)
  /-- The scheme names no host; the address is shown as it was understood. -/
  | noHost (shown : String)
  | unknownScheme
  /-- A character cannot stand in a request. -/
  | badRequestCharacter

def Refusal.message : Refusal → String
  | unreadable fault => "builder error: builder error: " ++ fault.message
  | noHost shown =>
    "builder error: builder error for url (" ++ shown ++ "): URL scheme is not allowed"
  | unknownScheme => "builder error: unknown proxy scheme"
  | badRequestCharacter => "builder error: invalid uri character"

/-- The characters that a name may hold and a request may not. -/
def notInRequest (c : Char) : Bool := c = '"' || c = '\x60' || c = '\x7b' || c = '\x7d'

/-- The server that an address names. -/
def Server.ofAddress (a : Address) (host : List Char) : Except Refusal Server :=
  if a.scheme ≠ "http".toList ∧ a.scheme ≠ "https".toList then .error .unknownScheme
  else if host.any notInRequest then .error .badRequestCharacter
  else .ok ⟨a.scheme, host⟩

/-- Reads `s` as the host of an `http` address; `why` is the complaint if it is not. -/
def presumed (s : String) (why : Refusal) : Except Refusal Server :=
  match Address.ofText ("http://" ++ s) with
  | .ok a => match a.host with
    | some host => Server.ofAddress a host
    | none => .error why
  | .error _ => .error why

/-- The server at an address. -/
def Server.ofText (s : String) : Except Refusal Server :=
  match Address.ofText s with
  | .error .relative => presumed s (.unreadable .relative)
  | .error fault => .error (.unreadable fault)
  | .ok a => match a.host with
    | some host => Server.ofAddress a host
    | none => presumed s (.noHost a.text)

end TrackResolver.Proxy

namespace TrackResolver

/-- The server that an engine has to send its requests through, if there is one. -/
def View.proxyServer (v : View) : Except EngineError (Option Proxy.Server) :=
  match v.proxy with
  | none => .ok none
  | some s => match Proxy.Server.ofText s with
    | .ok server => .ok (some server)
    | .error why => .error (.provider why.message)

end TrackResolver
