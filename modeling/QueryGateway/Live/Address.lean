import Std.Async.DNS
import QueryGateway.Net.SocketAddress
import QueryGateway.Text.Split

/-! # Resolving addresses

A numeric address stands for itself. Otherwise the part before the last colon is a name, which the
system may know under several addresses, and the part after it is a port.
-/

namespace QueryGateway

/-- An address in the form that the system takes. -/
def IpAddress.toSystem : IpAddress → Std.Net.IPAddr
  | .v4 octets => .v4 ⟨.ofFn fun i => UInt8.ofNat (octets.getD i.val 0)⟩
  | .v6 groups => .v6 ⟨.ofFn fun i => UInt16.ofNat (groups.getD i.val 0)⟩

/-- An address with a port in the form that the system takes. -/
def withPort (port : Nat) : Std.Net.IPAddr → Std.Net.SocketAddress
  | .v4 ip => .v4 ⟨ip, UInt16.ofNat port⟩
  | .v6 ip => .v6 ⟨ip, UInt16.ofNat port⟩

/-- The addresses of a name, the preferred one first. -/
def addressesOf (name : String) (port : Nat) : IO (List Std.Net.SocketAddress) := do
  let found ← (Std.Async.DNS.getAddrInfo name (toString port)).block
  return (found.toList.map (withPort port)).eraseDups

/-- The addresses that an address stands for. There is at least one. -/
def resolve (address : String) : IO (List Std.Net.SocketAddress) := do
  match SocketAddress.parse? address with
  | some a => return [withPort a.port a.ip.toSystem]
  | none =>
    match Text.cutLast ':' address with
    | none => throw (IO.userError "invalid socket address")
    | some (name, port) =>
      match Text.decimal? Text.maxWord16 port with
      | none => throw (IO.userError "invalid port value")
      | some port =>
        match ← addressesOf name port with
        | [] => throw (IO.userError "could not resolve to any addresses")
        | addresses => return addresses

/-- Tries an action on one address after the other, up to the first success. -/
def firstOf (attempt : Std.Net.SocketAddress → IO α) : List Std.Net.SocketAddress → IO α
  | [] => throw (IO.userError "could not resolve to any addresses")
  | [address] => attempt address
  | address :: rest => do
    try attempt address
    catch _ => firstOf attempt rest

end QueryGateway
