/-!
# SlotUpload.Url.Error

What can be wrong with the text of a URL.
-/

namespace SlotUpload.Url

inductive Error
  | noScheme
  | emptyHost
  | invalidPort
  | invalidIpv4
  | invalidIpv6
  /-- A host name that cannot be written in ASCII. -/
  | invalidDomain
  /-- A character that no host name of a general scheme may hold. -/
  | invalidDomainCharacter
  deriving DecidableEq, Repr

def Error.message : Error → String
  | noScheme => "relative URL without a base"
  | emptyHost => "empty host"
  | invalidPort => "invalid port number"
  | invalidIpv4 => "invalid IPv4 address"
  | invalidIpv6 => "invalid IPv6 address"
  | invalidDomain => "invalid international domain name"
  | invalidDomainCharacter => "invalid domain character"

end SlotUpload.Url
