import Tidegard.Common

namespace Tidegard.Notification.Destination

open Common

inductive Scheme where
  | http
  | https
  deriving DecidableEq

structure Target where
  scheme : Scheme
  host : String
  port : Nat
  deriving DecidableEq

structure SocketAddr where
  ip : IpAddr
  port : Nat
  deriving DecidableEq

inductive Refusal where
  | hostNotAllowed (host : String)
  | privateAddress (host : String)
  | plainHttp
  | unresolvable (host : String)
  deriving DecidableEq

/-- Without the dots at its end and in lower case. -/
def bareHost (host : String) : List Char := (host.toList.rdropWhile (· = '.')).map Char.toLower

def matchesPattern (host pattern : List Char) : Bool :=
  match pattern with
  | '*' :: '.' :: suffix =>
    suffix <:+ host &&
      let head := host.take (host.length - suffix.length)
      head.getLast? = some '.' && 1 < head.length
  | _ => host = pattern

def hostAllowed (host : String) (allowlist : List String) : Bool :=
  allowlist.any fun pattern => matchesPattern (bareHost host) (pattern.toList.map Char.toLower)

def isPublicV4 (ip : BitVec 32) : Bool :=
  let a := ip.toNat / 2 ^ 24
  let b := ip.toNat / 2 ^ 16 % 2 ^ 8
  let c := ip.toNat / 2 ^ 8 % 2 ^ 8
  let isPrivate := a = 10 ∨ a = 172 ∧ 16 ≤ b ∧ b ≤ 31 ∨ a = 192 ∧ b = 168
  let isLinkLocal := a = 169 ∧ b = 254
  let isMulticast := 224 ≤ a ∧ a ≤ 239
  ¬(ip.toNat = 0 ∨ a = 127 ∨ isPrivate ∨ isLinkLocal ∨ isMulticast ∨ ip.toNat = 2 ^ 32 - 1 ∨
    a = 0 ∨ 240 ≤ a ∨ a = 100 ∧ 64 ≤ b ∧ b < 128 ∨ a = 192 ∧ b = 0 ∧ c = 0 ∨
    a = 192 ∧ b = 0 ∧ c = 2 ∨ a = 198 ∧ b = 51 ∧ c = 100 ∨ a = 203 ∧ b = 0 ∧ c = 113 ∨
    a = 198 ∧ 18 ≤ b ∧ b < 20)

def toIpv4Mapped (ip : BitVec 128) : Option (BitVec 32) :=
  if ip.toNat / 2 ^ 32 = 0xffff then some (ip.setWidth 32) else none

def isPublic : IpAddr → Bool
  | .v4 ip => isPublicV4 ip
  | .v6 ip =>
    match toIpv4Mapped ip with
    | some mapped => isPublicV4 mapped
    | none =>
      let first := ip.toNat / 2 ^ 112
      let second := ip.toNat / 2 ^ 96 % 2 ^ 16
      ¬(ip.toNat = 0 ∨ ip.toNat = 1 ∨ first &&& 0xff00 = 0xff00 ∨ first &&& 0xfe00 = 0xfc00 ∨
        first &&& 0xffc0 = 0xfe80 ∨ first = 0x2001 ∧ second = 0x0db8 ∨
        first = 0x0064 ∧ second = 0xff9b)

/-- `lookup` is the resolver, which may fail. -/
def vet (lookup : String → Nat → Option (List SocketAddr)) (target : Target)
    (allowlist : List String) (allowPrivate : Bool) : Except Refusal SocketAddr :=
  if target.scheme = .http ∧ ¬ allowPrivate then .error .plainHttp
  else if ¬ hostAllowed target.host allowlist then .error (.hostNotAllowed target.host)
  else
    match lookup target.host target.port with
    | none | some [] => .error (.unresolvable target.host)
    | some (first :: rest) =>
      if ¬ allowPrivate ∧ (first :: rest).any (fun address => ¬ isPublic address.ip) then
        .error (.privateAddress target.host)
      else .ok first

end Tidegard.Notification.Destination
