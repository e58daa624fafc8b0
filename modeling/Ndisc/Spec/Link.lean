import Ndisc.Lib.Journal
import Ndisc.Spec.Monitor
import Ndisc.Spec.Sender

/-!
# A sender and a receiver

One sender and the neighbour table of one receiver. Each call on the sender may hand
frames to `sendto`; they arrive before the next call, or they are lost. The two clocks
tick in turns, either one first.
-/

namespace Ndisc

open Wire

/-- The way from the sender to the receiver: where its frames come in, and what the
network pads them with. -/
structure Channel where
  env : Env
  address : SockaddrLl
  accepted : address.accepted = true
  padding : Bytes

/-- The receiver sees a frame without its Ethernet header. A frame that its parser cannot
read leaves the table as it is. -/
def Channel.receive (ch : Channel) (table : NeighbourList) (frame : Sent) : NeighbourList :=
  match lldpFrameParser table ch.address (frame.buffer.drop 14 ++ ch.padding) with
  | .ok table => table
  | .error _ => table

/-- Both sides, whose clock ticks next, and how many frames in a row were lost. -/
structure Link where
  endpoint : Endpoint
  table : NeighbourList
  senderNext : Bool
  lost : ℕ

/-- A call on the sender, with the fate of the frames it sends, or a tick of the receiver. -/
inductive LinkEvent
  | call (op : SenderOp) (delivered : Bool)
  | receiverTick

def SenderOp.isTick : SenderOp → Bool
  | .tick _ => true
  | _ => false

namespace Link

/-- The frames of the last call, the latest one first. -/
def newFrames (before after : Endpoint) : List Sent :=
  Journal.since after.io.log before.io.log

def step (ch : Channel) (s : Link) : LinkEvent → Link
  | .call op delivered =>
    let endpoint := s.endpoint.step ch.env op
    let frames := newFrames s.endpoint endpoint
    { endpoint := endpoint
      table := if delivered then frames.foldr (fun frame table => ch.receive table frame) s.table
        else s.table
      senderNext := s.senderNext && !op.isTick
      lost := if frames.isEmpty then s.lost else if delivered then 0 else s.lost + frames.length }
  | .receiverTick => { s with table := s.table.tick 1, senderNext := true }

/-- The clocks tick in turns. -/
def InTurn (s : Link) : LinkEvent → Prop
  | .call op _ => op.isTick = true → s.senderNext = true
  | .receiverTick => s.senderNext = false

instance (s : Link) : DecidablePred s.InTurn
  | .call op _ => inferInstanceAs (Decidable (op.isTick = true → s.senderNext = true))
  | .receiverTick => inferInstanceAs (Decidable (s.senderNext = false))

end Link

end Ndisc
