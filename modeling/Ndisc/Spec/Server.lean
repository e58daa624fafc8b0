import Ndisc.Spec.Daemon
import Ndisc.Spec.Events

/-!
# The process (`server_main.cc`)

`main` makes eight handlers, and the listening socket makes one more for each client. The event
manager calls those that are ready, one after another, and each call works on the tables of the
daemon. A handler of `main` that cannot be made or added ends the process before the loop.
-/

namespace Ndisc

open Events

/-! ## Objects -/

/-- What a handler is. -/
inductive Role
  | netlink (handler : NetlinkHandler)
  | ethernetMonitor
  | clientRepository
  | clientListenSocket
  | clock
  | interrupt
  | clientSender (number : ℕ)
  deriving DecidableEq

/-- The handlers that `LldpRepository::Create` and `initializeHandlers` make, in order. -/
def fixedRoles : List Role :=
  [.netlink .monitor, .netlink .deviceReader, .netlink .ipReader, .ethernetMonitor,
    .clientRepository, .clientListenSocket, .clock, .interrupt]

/-- `EPOLLIN`, which is `POLLIN`. -/
def epollIn : UInt32 := 1

/-- The descriptors of these handlers. -/
structure Sockets where
  socket : Fin 8 → Fd
  injective : Function.Injective socket

/-- A netlink socket is added once it is made. The other handlers are made first, and then added
in the order of the vector `handlers`. -/
def Sockets.initializeHandlers (sockets : Sockets) : List Event :=
  [.create (sockets.socket 0) epollIn, .add 0 0 none, .create (sockets.socket 1) epollIn,
    .add 0 1 none, .create (sockets.socket 2) epollIn, .add 0 2 none,
    .create (sockets.socket 3) epollIn, .create (sockets.socket 4) epollIn,
    .create (sockets.socket 5) epollIn, .create (sockets.socket 6) epollIn,
    .create (sockets.socket 7) epollIn,
    .add 0 6 none, .add 0 3 none, .add 0 4 none, .add 0 5 none, .add 0 7 none]

/-- The results of the system calls that a handler makes, if it makes them. -/
structure Results where
  timesTriggered : Option UInt64
  frame : FrameReceived
  datagram : Netlink.Received
  sent : ℕ → Bool
  accepted : Option Fd
  refused : Option ℤ
  request : Client.Datagram
  written : Bool
  read : Bool

/-- The objects of the process, and what each handler is, in the order in which they are made. -/
structure Server where
  objects : State
  roles : List Role
  daemon : Daemon

namespace Server

variable (platform : Platform)

def create (sockets : Sockets) (verbose : Bool) : Server :=
  ⟨Run.run State.step .init sockets.initializeHandlers, fixedRoles, .create verbose⟩

/-- The handler that has a role. -/
def object (s : Server) (role : Role) : HandlerId := s.roles.idxOf role

/-! ## Calls -/

/-- `ClientListenSocket::Call`. A descriptor that is open is not given again. The last
`shared_ptr` to a handler that is not added goes at once. -/
def accept (r : Results) (s : Server) : State × List Role × Client.ClientEvent :=
  match r.accepted with
  | none => (s.objects, s.roles, .listenSocket false false)
  | some fd =>
    if (s.objects.descriptors fd).isSome then (s.objects, s.roles, .listenSocket false false)
    else
      let x := s.objects.created
      let roles := s.roles ++ [.clientSender s.daemon.clients.accepted]
      match (s.objects.create fd epollIn).add 0 x r.refused with
      | (.ok _, objects) => (objects, roles, .listenSocket true true)
      | (.error _, objects) => (objects.release x, roles, .listenSocket true false)

/-- The handlers whose `shared_ptr`s `ClientRepository::Call` erases, the last one first. -/
def erased (s : Server) : List HandlerId :=
  (s.daemon.clients.transportSockets.filter Client.ClientSenderSocket.eofReceived).reverse.map
    fun socket => s.object (.clientSender socket.number)

/-- What a call does to the objects, and to the tables. -/
def call (role : Role) (r : Results) (s : Server) : State × List Role × HandlerCall :=
  match role with
  | .netlink handler => (s.objects, s.roles, .netlink handler r.datagram r.sent)
  | .ethernetMonitor => (s.objects, s.roles, .ethernetMonitor r.frame)
  | .clientRepository =>
    (s.erased.foldl State.release s.objects, s.roles, .client (.repository r.read))
  | .clientListenSocket =>
    let (objects, roles, event) := s.accept r
    (objects, roles, .client event)
  | .clock => (s.objects, s.roles, .clock r.timesTriggered (r.sent 0))
  | .interrupt => (s.objects, s.roles, .interrupt r.read)
  | .clientSender number =>
    (s.objects, s.roles, .client (.senderSocket number r.request r.written))

/-! ## The loop -/

/-- `while (!interrupt_flag) manager.ProcessEvents()`: a round begins. -/
def processEvents (ready : List Fd) (s : Server) : Server :=
  if s.daemon.interruptFlag then s
  else { s with objects := s.objects.processEvents 0 ready }

/-- The next turn of a round, with the call of the handler. -/
def nextEvent (r : Results) (s : Server) : Except Crash Server :=
  let s := { s with objects := s.objects.nextEvent }
  match s.objects.calling.bind (s.roles[·]?) with
  | none => .ok s
  | some role => do
    let (objects, roles, c) := s.call role r
    let daemon ← s.daemon.step platform c
    .ok ⟨objects.returned, roles, daemon⟩

inductive ServerEvent
  | processEvents (ready : List Fd)
  | nextEvent (r : Results)

def step (s : Server) : ServerEvent → Except Crash Server
  | .processEvents ready => .ok (s.processEvents ready)
  | .nextEvent r => s.nextEvent platform r

def run (sockets : Sockets) (verbose : Bool) (events : List ServerEvent) : Except Crash Server :=
  events.foldlM (step platform) (create sockets verbose)

/-! ## The end of `main` -/

/-- The vector `handlers`. -/
def handlers : List Role :=
  [.clock, .ethernetMonitor, .clientRepository, .clientListenSocket, .interrupt]

end Server

end Ndisc
