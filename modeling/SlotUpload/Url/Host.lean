import SlotUpload.Url.Domain
import SlotUpload.Url.Ipv4
import SlotUpload.Url.Ipv6
import SlotUpload.Url.Percent

/-!
# SlotUpload.Url.Host

Hosts.  In a URL of a special scheme a host is a domain name, percent-decoded
and brought into its ASCII form, or an IP address; in other URLs it is an IPv6
address or any text without certain characters, and may be empty.
-/

namespace SlotUpload.Url

inductive Host
  | name (text : String)
  | ipv4 (address : Ipv4)
  | ipv6 (address : Ipv6)
  deriving DecidableEq, Repr

namespace Host

/-- Is there no host at all between the slashes? -/
def isEmpty : Host → Bool
  | name text => text.isEmpty
  | _ => false

protected def toString : Host → String
  | name text => text
  | ipv4 address => address.toString
  | ipv6 address => "[" ++ address.toString ++ "]"

/-- The characters that no host of a general scheme may hold. -/
def isForbidden (c : Char) : Bool := "\x00\t\n\r #/:<>?@[\\]^|".contains c

/-- An address in square brackets, from the text after the first one. -/
def bracketed (s : List Char) : Except Error Host :=
  if s.getLast? = some ']' then (Ipv6.parse s.dropLast).map .ipv6 else .error .invalidIpv6

/-- The host of a URL with a general scheme. -/
def parseGeneral (s : List Char) : Except Error Host :=
  match s with
  | '[' :: s => bracketed s
  | s =>
    if s.any isForbidden then .error .invalidDomainCharacter
    else .ok (.name (String.ofList (Percent.encode Percent.controlsOnly s)))

/-- The host of a URL with a special scheme. -/
def parseSpecial (s : List Char) : Except Error Host :=
  match s with
  | '[' :: s => bracketed s
  | s =>
    match Text.decode? (Percent.decode s) with
    | none => .error .invalidDomain
    | some domain =>
      match Domain.toAscii domain with
      | .error e => .error e
      | .ok [] => .error .emptyHost
      | .ok ascii =>
        if Ipv4.endsInNumber ascii then (Ipv4.parse ascii).map .ipv4
        else .ok (.name (String.ofList ascii))

end Host

end SlotUpload.Url
