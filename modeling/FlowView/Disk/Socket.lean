import FlowView.Disk.Tree
import FlowView.Location.Server
/-!
# Sockets

A server is looked for at a path or by the name of its host. On this disk there is no socket, and no
host that answers: it remains to say how far the search gets.
-/

namespace FlowView.Disk

/-- The most bytes that the path of a socket may have, and one more. -/
def socketLimit : Nat := 108

/-- What comes of looking for a socket. -/
def contactSocket (d : Disk) (path : String) : StoreFault :=
  let bytes := Text.utf8Bytes path
  if 0 ∈ bytes then .contact .zeroByteInSocket
  else if socketLimit ≤ bytes.length then .contact .socketTooLong
  else
    match d.locate path with
    | .error fault => .contact (.path fault)
    | .ok place => if (d.node? place).isSome then .unreachable else .contact (.path .missing)

/-- What comes of looking for a server. -/
def contact (d : Disk) (s : Server) : StoreFault :=
  match s.socketPath? with
  | some path => d.contactSocket path
  | none =>
    let host := s.hostName
    if Server.isKnown host then .unreachable
    else if host.any (·.toNat = 0) then .contact (.path .zeroByte)
    else .contact (if Server.isName host then .noNames else .noHost)

end FlowView.Disk
