/-
  Core/Address.lean --- socket addresses, the part of `std::net` that the source uses of
  them.  How they are written and read, and how a name is resolved, is a parameter.
-/
import FarBus.Foundation.BigEndian

set_option autoImplicit false

namespace FarBus.Core

/-- `Ipv4Addr::LOCALHOST`. -/
def LOCALHOST : Vector UInt8 4 := #v[127, 0, 0, 1]

/-- `std::net::SocketAddr`. -/
inductive SocketAddr where
  | v4 (ip : Vector UInt8 4) (port : UInt16)
  | v6 (ip : Vector UInt16 8) (port : UInt16) (flowinfo scopeId : UInt32)
  deriving DecidableEq, Repr

namespace SocketAddr

def isIpv6 : SocketAddr → Bool
  | v4 _ _ => false
  | v6 _ _ _ _ => true

end SocketAddr

/-- What `std` does with the texts of addresses. -/
structure AddressText where
  /-- `Display` -/
  display : SocketAddr → String
  /-- `FromStr` -/
  parse : String → Option SocketAddr
  /-- `ToSocketAddrs` of a string, with the text of the I/O error -/
  toSocketAddrs : String → Except String (List SocketAddr)

end FarBus.Core
