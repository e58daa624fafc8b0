import Ndisc.Lib.Run
import Ndisc.Lib.Sweep

/-!
# The sockets of the clients (`client.cc`)

`ClientListenSocket` accepts the clients, `ClientRepository` holds their sockets, and a
`ClientSenderSocket` notifies it through an `eventfd` when its client has gone. The event
loop calls these handlers one at a time, in any order.
-/

namespace Ndisc.Client

/-- A socket, with its place in the order of acceptance. -/
structure ClientSenderSocket where
  number : ℕ
  eofReceived : Bool
  deriving DecidableEq

/-- `socket` is the counter of the `eventfd`. The next socket to be accepted has the number
`accepted`. -/
structure ClientRepository where
  socket : ℕ
  transportSockets : List ClientSenderSocket
  accepted : ℕ
  deriving DecidableEq

/-- The result of `recvmsg` with `MSG_TRUNC`, and the buffer. -/
structure Datagram where
  receivedBytes : ℤ
  requestId : UInt16
  deriving DecidableEq

/-- What `ClientSenderSocket::Call` does with it. -/
inductive Reaction
  | warn
  | notify
  | dumpData (requestId : UInt16)
  deriving DecidableEq

def Datagram.reaction (msg : Datagram) : Reaction :=
  if msg.receivedBytes < 0 then .warn
  else if msg.receivedBytes = 0 then .notify
  else if msg.receivedBytes ≠ 2 then .warn
  else .dumpData msg.requestId

def ClientSenderSocket.call (msg : Datagram) (socket : ClientSenderSocket) : ClientSenderSocket :=
  if msg.reaction = .notify then { socket with eofReceived := true } else socket

namespace ClientRepository

def create : ClientRepository := ⟨0, [], 0⟩

/-- `added` is the outcome of `event_manager_->Add`. -/
def add (dts : ClientSenderSocket) (added : Bool) (r : ClientRepository) : ClientRepository :=
  if added then { r with transportSockets := r.transportSockets ++ [dts] } else r

/-- `ClientListenSocket::Call`. A socket that was not added is closed again. -/
def accept (accepted added : Bool) (r : ClientRepository) : ClientRepository :=
  if accepted then { r.add ⟨r.accepted, false⟩ added with accepted := r.accepted + 1 } else r

def holds (number : ℕ) (r : ClientRepository) : Bool :=
  r.transportSockets.any fun socket => socket.number == number

/-- `ClientSenderSocket::Call` of a socket that is still there. `written` is the outcome of
its `write`, if it makes one. -/
def callSender (number : ℕ) (msg : Datagram) (written : Bool) (r : ClientRepository) :
    ClientRepository :=
  if r.holds number then
    { r with
      transportSockets := r.transportSockets.map fun socket =>
        if socket.number = number then socket.call msg else socket
      socket := if msg.reaction = .notify ∧ written then r.socket + 1 else r.socket }
  else r

/-- A `read` that succeeds leaves the counter at 0; the loop goes ahead all the same. -/
def call (read : Bool) (r : ClientRepository) : ClientRepository :=
  { r with
    socket := if read then 0 else r.socket
    transportSockets := Sweep.sweep ClientSenderSocket.eofReceived r.transportSockets }

end ClientRepository

/-! ## Runs -/

/-- The calls of the event loop, with the outcomes of their system calls. -/
inductive ClientEvent
  | listenSocket (accepted added : Bool)
  | senderSocket (number : ℕ) (msg : Datagram) (written : Bool)
  | repository (read : Bool)
  deriving DecidableEq

def ClientRepository.step (r : ClientRepository) : ClientEvent → ClientRepository
  | .listenSocket accepted added => r.accept accepted added
  | .senderSocket number msg written => r.callSender number msg written
  | .repository read => r.call read

end Ndisc.Client
