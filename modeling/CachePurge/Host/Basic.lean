import CachePurge.Host.Ipv4
import CachePurge.Host.Ipv6
import CachePurge.Idna.Domain
import CachePurge.Text.Percent

/-!
Hosts of URLs. Where the scheme knows what a host is, a name is brought into its ASCII form, and one
that ends in a number is an address; elsewhere a name stays as it is written.
-/

namespace CachePurge

inductive UrlError where
  | emptyHost
  | invalidDomain
  | invalidPort
  | invalidIpv4
  | invalidIpv6
  | invalidDomainCharacter
  | relativeWithoutBase
  | relativeToPlain
  deriving DecidableEq, Repr

def UrlError.message : UrlError → String
  | .emptyHost => "empty host"
  | .invalidDomain => "invalid international domain name"
  | .invalidPort => "invalid port number"
  | .invalidIpv4 => "invalid IPv4 address"
  | .invalidIpv6 => "invalid IPv6 address"
  | .invalidDomainCharacter => "invalid domain character"
  | .relativeWithoutBase => "relative URL without a base"
  | .relativeToPlain => "relative URL with a cannot-be-a-base base"

inductive Host where
  | domain (text : String)
  | ipv4 (address : UInt32)
  | ipv6 (address : Ipv6)
  deriving DecidableEq

namespace Host

def toText : Host → String
  | .domain text => text
  | .ipv4 address => String.ofList (Ipv4.toText address)
  | .ipv6 address => String.ofList ('[' :: Ipv6.toText address ++ [']'])

/-- The address between brackets, if the text opens one. -/
def bracketed? : List Char → Option (Except UrlError Host)
  | '[' :: rest =>
    if rest.getLast? == some ']' then
      match Ipv6.parse? rest.dropLast with
      | some address => some (.ok (.ipv6 address))
      | none => some (.error .invalidIpv6)
    else some (.error .invalidIpv6)
  | _ => none

def ofAscii (name : List Char) : Except UrlError Host :=
  if name.isEmpty then .error .emptyHost
  else if Ipv4.endsInNumber name then
    match Ipv4.parse? name with
    | some address => .ok (.ipv4 address)
    | none => .error .invalidIpv4
  else .ok (.domain (String.ofList name))

/-- The host of a URL whose scheme knows what a host is. -/
def parse (text : List Char) : Except UrlError Host :=
  match bracketed? text with
  | some answer => answer
  | none =>
    match (Utf8.decode? (Percent.decode text)).bind Idna.toAscii with
    | some name => ofAscii name
    | none => .error .invalidDomain

/-- Characters that stand in no host. -/
def forbidden : List Char := '\x00' :: "\t\n\r #/:<>?@[\\]^|".toList

/-- The host of a URL with a scheme of its own, which may be empty. -/
def parsePlain (text : List Char) : Except UrlError Host :=
  match bracketed? text with
  | some answer => answer
  | none =>
    if text.any forbidden.contains then .error .invalidDomainCharacter
    else .ok (.domain (String.ofList (Percent.encode [] text)))

end Host
end CachePurge
