import Ndisc.Lib.Journal
import Ndisc.Spec.Daemon

/-!
# Two daemons on a segment

One daemon announces an interface, and the other one listens. Each has all its handlers, called
in any order. What the first one sends on the interface comes to the other before its next call,
or is lost.
-/

namespace Ndisc

open Wire Netlink

/-- A frame as the socket of a neighbour gets it: without the Ethernet header, and with
padding behind it. -/
def Sent.received (frame : Sent) (address : SockaddrLl) (padding : Bytes) : FrameReceived where
  address := address
  peeked := some (frame.buffer.drop 14 ++ padding)
  received := some (frame.buffer.drop 14 ++ padding)

/-- The frame went out on this interface. -/
def Sent.on (i : UInt32) (frame : Sent) : Bool := frame.sllIfindex == i.toNat

/-- The frames of an interface. -/
def Io.on (i : UInt32) (io : Io) : List Sent := io.log.filter (Sent.on i)

/-- The interface on which the one daemon sends, and where its frames come to the other one. -/
structure Segment where
  sender : Platform
  receiver : Platform
  interface : UInt32
  address : SockaddrLl
  accepted : address.accepted = true
  padding : Bytes

/-- Both daemons, and how many frames in a row were lost. -/
structure Hosts where
  sender : Daemon
  receiver : Daemon
  lost : ℕ

/-- A handler of one of them is called. What the first one sends in the call is delivered or not. -/
inductive HostEvent
  | sender (c : HandlerCall) (delivered : Bool)
  | receiver (c : HandlerCall)

namespace Segment

variable (g : Segment)

/-- The frames of a call on the interface, the first one first. -/
def newFrames (before after : Daemon) : List Sent :=
  (Journal.since (after.lldpRepository.io.on g.interface)
    (before.lldpRepository.io.on g.interface)).reverse

/-- Where a frame comes in. -/
def deliver (frame : Sent) : HandlerCall := .ethernetMonitor (frame.received g.address g.padding)

def step (s : Hosts) : HostEvent → Except Crash Hosts
  | .sender c delivered => do
    let sender ← s.sender.step g.sender c
    let frames := g.newFrames s.sender sender
    if delivered then
      let receiver ← (frames.map g.deliver).foldlM (Daemon.step g.receiver) s.receiver
      .ok ⟨sender, receiver, if frames = [] then s.lost else 0⟩
    else .ok ⟨sender, s.receiver, s.lost + frames.length⟩
  | .receiver c => do
    let receiver ← s.receiver.step g.receiver c
    .ok { s with receiver := receiver }

def run (s : Hosts) (events : List HostEvent) : Except Crash Hosts := events.foldlM g.step s

end Segment

end Ndisc
