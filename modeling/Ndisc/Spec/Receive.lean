import Ndisc.Spec.Monitor

/-!
# Receiving frames (`lldp_monitor.cc`)

`EthernetLldpMonitor::Call` peeks at the next frame to learn its length, makes room for it,
and takes it. Both calls of `recvmsg` copy into the same buffer, which is never emptied.
-/

namespace Ndisc

open Wire

def maxFrameBufferSize : ℕ := 1600

/-- What the two calls of `recvmsg` see: the next frame, or `none` where the call fails. The
address is that of the second one. -/
structure FrameReceived where
  address : SockaddrLl
  peeked : Option Bytes
  received : Option Bytes
  deriving DecidableEq

structure EthernetLldpMonitor where
  messageBuffer : Bytes
  deriving DecidableEq

namespace EthernetLldpMonitor

def create : EthernetLldpMonitor := ⟨resize [] 2⟩

/-- `recvmsg` copies as much of a frame as there is room for. -/
def recvmsg (messageBuffer frame : Bytes) : Bytes :=
  overwrite messageBuffer 0 (frame.take messageBuffer.length)

/-- What the peek leaves of the buffer: with `MSG_TRUNC` it tells the length of all of the
frame. -/
def peek (m : EthernetLldpMonitor) (frame : Bytes) : EthernetLldpMonitor :=
  let messageBuffer := recvmsg m.messageBuffer frame
  if frame.length > messageBuffer.length then
    ⟨resize messageBuffer (if frame.length > maxFrameBufferSize then maxFrameBufferSize else frame.length)⟩
  else ⟨messageBuffer⟩

/-- `EthernetLldpMonitor::Call`, and what the callback is given, if it is called. -/
def call (m : EthernetLldpMonitor) (r : FrameReceived) :
    EthernetLldpMonitor × Option (SockaddrLl × Bytes) :=
  match r.peeked with
  | none => (m, none)
  | some peeked =>
    let m := m.peek peeked
    match r.received with
    | none => (m, none)
    | some frame =>
      let receivedLength := min frame.length m.messageBuffer.length
      let m : EthernetLldpMonitor := ⟨recvmsg m.messageBuffer frame⟩
      if receivedLength = peeked.length then
        (m, some (r.address, m.messageBuffer.take receivedLength))
      else (m, none)

end EthernetLldpMonitor

end Ndisc
