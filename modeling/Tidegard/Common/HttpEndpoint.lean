import Tidegard.Text
import Tidegard.Common.Rfc3339

namespace Tidegard.Common.HttpEndpoint

open List hiding after
open Text Rfc3339

inductive Scheme where
  | http
  | https
  deriving DecidableEq

/-- The scheme of a URL with the separator after it. -/
def Scheme.start : Scheme → List Char
  | .http => ['h', 't', 't', 'p', ':', '/', '/']
  | .https => ['h', 't', 't', 'p', 's', ':', '/', '/']

def Scheme.defaultPort : Scheme → Nat
  | .http => 8123
  | .https => 8443

def stripScheme (url : List Char) : Option (Scheme × List Char) :=
  match Scheme.https.start.isPrefixOf? url with
  | some rest => some (.https, rest)
  | none => (Scheme.http.start.isPrefixOf? url).map fun rest => (.http, rest)

def authority (rest : List Char) : List Char := (stripSuffix ['/'] rest).getD rest

/-- `rsplit_once`. -/
def rsplitOnce (c : Char) (text : List Char) : Option (List Char × List Char) :=
  (splitOnce c text.reverse).map fun (after, before) => (before.reverse, after.reverse)

/-- The host and the text of the port. -/
def hostAndPort : List Char → Except String (List Char × Option (List Char))
  | '[' :: bracketed =>
    match splitOnce ']' bracketed with
    | none => .error "an IPv6 host needs its closing bracket"
    | some (host, after) => .ok (host, [':'].isPrefixOf? after)
  | authority =>
    match rsplitOnce ':' authority with
    | some (host, port) => .ok (host, some port)
    | none => .ok (authority, none)

def parsePort (scheme : Scheme) : Option (List Char) → Except String Nat
  | some text =>
    match (parseUnsigned 65535 (String.ofList text)).filter (0 < ·) with
    | some port => .ok port
    | none => .error "the port is not a number from 1 to 65535"
  | none => .ok scheme.defaultPort

def parseUrl (url : String) : Except String (Scheme × String × Nat) :=
  match stripScheme url.toList with
  | none => .error "the URL must start with http:// or https://"
  | some (scheme, rest) =>
    if (authority rest).any (· ∈ ['/', '?', '#', '@']) then
      .error "the URL may hold only a host and a port"
    else do
      let (host, port) ← hostAndPort (authority rest)
      if host.isEmpty then .error "the URL has no host"
      else
        let port ← parsePort scheme port
        return (scheme, String.ofList host, port)

/-- A host as a URL writes it: in brackets when it contains a colon. -/
def hostText (host : List Char) : List Char :=
  if ':' ∈ host then '[' :: host ++ [']'] else host

def authorityUrl (scheme : Scheme) (host : String) (port : Nat) : String :=
  String.ofList (scheme.start ++ hostText host.toList ++ ':' :: Nat.toDigits 10 port)

end Tidegard.Common.HttpEndpoint
