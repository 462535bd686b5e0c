/-!
# What can go wrong with addresses
-/

namespace GatewayDesk

/-- Why a text is no address. -/
inductive UrlError where
  /-- It names no scheme. -/
  | relative
  | noHost
  | badDomain
  | badHostCharacter
  | badPort
  | badV4
  | badV6
  deriving DecidableEq, Repr

/-- The error in words. -/
def UrlError.message : UrlError → String
  | .relative => "relative URL without a base"
  | .noHost => "empty host"
  | .badDomain => "invalid international domain name"
  | .badHostCharacter => "invalid domain character"
  | .badPort => "invalid port number"
  | .badV4 => "invalid IPv4 address"
  | .badV6 => "invalid IPv6 address"

end GatewayDesk
