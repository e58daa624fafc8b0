import Ndisc.Spec.Client

/-!
# Many requests over one connection (`client.cc`)

Requests and answers share one ordered stream. A packet that was sent and not yet
received stays in it, also when the call of `GetData` that asked for it is over.
-/

namespace Ndisc.Client

open Std (ExtTreeMap)

/-- What goes on around one call of `GetData`: the neighbour list and the devices when the
daemon answers, and what each call of `recvmsg` does: it fails with an error, or delivers
the next packet (`none`, and when the list is over). -/
structure Exchange where
  neighbourList : NeighbourList
  deviceInfo : ExtTreeMap UInt32 LldpSender
  recvmsg : List (Option ℤ)

/-- What the calls of `recvmsg` give while these packets are there. -/
def deliver : List (Option ℤ) → List ClientPacket → List Recv
  | [], ps => ps.map .packet
  | some errno :: script, ps => .failed errno :: deliver script ps
  | none :: script, p :: ps => .packet p :: deliver script ps
  | none :: script, [] => deliver script []

/-- The packets that are left to receive. -/
def packetsOf (recvs : List Recv) : List ClientPacket :=
  recvs.filterMap fun
    | .packet p => some p
    | .failed _ => none

/-- A client's connection. Each packet in it stands with the number of the call whose
request it answers. -/
structure Connection where
  requestId : UInt16
  calls : ℕ
  pending : List (ℕ × ClientPacket)

/-- What a call returns, and the packets that it took from the connection. -/
structure Reply where
  map : ExtTreeMap UInt16 NeighbourDeviceData
  received : List (ℕ × ClientPacket)

namespace Connection

def create : Connection := ⟨1, 0, []⟩

/-- The request, its answer and `GetData`. There is no result where the daemon or the client
runs over an array, or the client waits for ever. -/
def getData (c : Connection) (x : Exchange) : Option (Reply × Connection) :=
  match dumpData x.neighbourList x.deviceInfo c.requestId with
  | .error _ => none
  | .ok answer =>
    let pending := c.pending ++ answer.map fun p => (c.calls, p)
    match Client.getData (deliver x.recvmsg (pending.map Prod.snd)) with
    | .ok (some (map, rest)) =>
      let count := pending.length - (packetsOf rest).length
      some (⟨map, pending.take count⟩, ⟨c.requestId + 1, c.calls + 1, pending.drop count⟩)
    | _ => none

/-- The connection after some calls. -/
def after (exchanges : List Exchange) : Option Connection :=
  exchanges.foldlM (fun c x => (c.getData x).map Prod.snd) create

end Connection

end Ndisc.Client
