-- SUMMARY: What the network of a machine lets a session do.

/-!
# Networks

A session offers the addresses of its machine to the remote peer, and takes datagrams
on the loopback interface. A machine without any address is isolated: its sessions
have no candidates, no peer reaches them, and no datagram gets through.
-/

namespace RtpBridge

structure Network where
  /-- How many addresses the machine has. -/
  addresses : Nat
deriving Repr, DecidableEq

namespace Network

def isolated : Network := ⟨0⟩

/-- Whether datagrams and peers get through. -/
def isUp (network : Network) : Bool := network.addresses ≠ 0

end Network

end RtpBridge
