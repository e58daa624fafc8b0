import Ndisc.Spec.Client
import Ndisc.Spec.Clients
import Ndisc.Spec.Display
import Ndisc.Spec.Parser
import Ndisc.Spec.Receive
import Ndisc.Spec.Repository

/-!
# The daemon (`server_main.cc`, `clock_handler.cc`)

The event loop calls one handler at a time: the clock, the socket for LLDP frames, the three
netlink sockets, the sockets of the clients, and the one for signals. A handler reads its
descriptor and works on the tables that all of them share. What the system calls give is in
the events, so any order of handlers and any results of their reads is a list of these.
-/

namespace Ndisc

open Wire Netlink

/-! ## The clock -/

def dumpInfoTimeout : UInt16 := 5

structure ClockHandler where
  dumpingEnabled : Bool
  dumpTimer : UInt16
  deriving DecidableEq

namespace ClockHandler

def create (verbose : Bool) : ClockHandler := ⟨verbose, 0⟩

/-- What `Call` does after both ticks. Whether it calls `DumpInfo` comes second. -/
def tick (c : ClockHandler) (timesTriggered : UInt64) : ClockHandler × Bool :=
  if c.dumpingEnabled then
    if c.dumpTimer.toUInt64 > timesTriggered then
      ({ c with dumpTimer := (c.dumpTimer.toUInt64 - timesTriggered).toUInt16 }, false)
    else ({ c with dumpTimer := dumpInfoTimeout }, true)
  else (c, false)

end ClockHandler

/-! ## State -/

/-- What the daemon runs on: the machine id and `sendto` (`env`), what lies in memory behind
an error message, `inet_ntop`, and the descriptor of a netlink socket. -/
structure Platform where
  env : Env
  memory : ℕ → Bytes
  inetNtop6 : Bytes → Bytes
  netlinkFd : ℕ

/-- What the daemon prints, and what it sends to a client. -/
inductive Output
  | screen (text : Bytes)
  | answer (socket : ℕ) (packets : List Client.ClientPacket)

/-- The objects of `main`, and the output so far. -/
structure Daemon where
  neighbourList : NeighbourList
  monitor : EthernetLldpMonitor
  lldpRepository : LldpRepository
  clock : ClockHandler
  clients : Client.ClientRepository
  interruptFlag : Bool
  outputs : List Output

/-- A read outside of a received message, or a write past the end of an array. -/
inductive Crash
  | read (fault : Fault)
  | copy (fault : Client.CopyFault)

/-! ## Events -/

/-- The netlink sockets of the device repository. -/
inductive NetlinkHandler
  | monitor
  | deviceReader
  | ipReader
  deriving DecidableEq

/-- What the callback of a socket does with the view that is the `n`th of its datagram. -/
def NetlinkHandler.event (sent : ℕ → Bool) (n : ℕ) (view : NetlinkPacketView) :
    NetlinkHandler → DaemonEvent
  | .monitor => .monitorPacket view
  | .deviceReader => .linkPacket view (sent n)
  | .ipReader => .addrPacket view

/-- A handler that is called, with the results of its system calls. `sent` are the outcomes
of the requests that it makes; the clock and a `read` that fails gives `none`. -/
inductive HandlerCall
  | clock (timesTriggered : Option UInt64) (sent : Bool)
  | ethernetMonitor (r : FrameReceived)
  | netlink (handler : NetlinkHandler) (r : Received) (sent : ℕ → Bool)
  | client (event : Client.ClientEvent)
  | interrupt (read : Bool)

namespace Daemon

variable (platform : Platform)

def create (verbose : Bool) : Daemon where
  neighbourList := .empty
  monitor := .create
  lldpRepository := .create
  clock := .create verbose
  clients := .create
  interruptFlag := false
  outputs := []

/-- `ClockHandler::Call`. -/
def clockCall (timesTriggered : Option UInt64) (sent : Bool) (d : Daemon) : Daemon :=
  match timesTriggered with
  | none => d
  | some timesTriggered =>
    if timesTriggered = 0 then d
    else
      let neighbourList := d.neighbourList.tick timesTriggered
      let lldpRepository := d.lldpRepository.tick platform.env timesTriggered sent
      let (clock, dumping) := d.clock.tick timesTriggered
      { d with
        neighbourList := neighbourList
        lldpRepository := lldpRepository
        clock := clock
        outputs := if dumping then
            d.outputs ++ [.screen (dumpInfo platform.inetNtop6 platform.env.machineId
              lldpRepository.currentState neighbourList)]
          else d.outputs }

/-- `EthernetLldpMonitor::Call`, whose callback is `lldpFrameParser`. -/
def ethernetCall (r : FrameReceived) (d : Daemon) : Except Crash Daemon :=
  let (monitor, handed) := d.monitor.call r
  match handed with
  | none => .ok { d with monitor := monitor }
  | some (address, frame) => do
    let neighbourList ← (lldpFrameParser d.neighbourList address frame).mapError .read
    .ok { d with monitor := monitor, neighbourList := neighbourList }

/-- The events of a datagram, one for each of its messages. -/
def netlinkEvents (handler : NetlinkHandler) (r : Received) (sent : ℕ → Bool) :
    Except Crash (List DaemonEvent) := do
  let views ← (NetlinkSocket.call platform.memory true platform.netlinkFd r).mapError .read
  .ok (views.mapIdx fun n view => handler.event sent n view)

/-- `NetlinkSocket::Call` of one of the three sockets. -/
def netlinkCall (handler : NetlinkHandler) (r : Received) (sent : ℕ → Bool) (d : Daemon) :
    Except Crash Daemon := do
  let events ← netlinkEvents platform handler r sent
  .ok { d with
    lldpRepository := Run.run (LldpRepository.step platform.env) d.lldpRepository events }

/-- The request that a client makes, if it makes one. -/
def request (d : Daemon) : Client.ClientEvent → Option (ℕ × UInt16)
  | .senderSocket number msg _ =>
    if d.clients.holds number then
      match msg.reaction with
      | .dumpData requestId => some (number, requestId)
      | _ => none
    else none
  | _ => none

/-- The handlers of the clients. A request is answered from the tables as they are. -/
def clientCall (event : Client.ClientEvent) (d : Daemon) : Except Crash Daemon :=
  match d.request event with
  | none => .ok { d with clients := d.clients.step event }
  | some (number, requestId) => do
    let packets ← (Client.dumpData d.neighbourList d.lldpRepository.currentState
      requestId).mapError .copy
    .ok { d with
      clients := d.clients.step event
      outputs := d.outputs ++ [.answer number packets] }

def step (d : Daemon) : HandlerCall → Except Crash Daemon
  | .clock timesTriggered sent => .ok (d.clockCall platform timesTriggered sent)
  | .ethernetMonitor r => d.ethernetCall r
  | .netlink handler r sent => d.netlinkCall platform handler r sent
  | .client event => d.clientCall event
  | .interrupt read => .ok { d with interruptFlag := d.interruptFlag || read }

/-! ## Runs -/

def run (verbose : Bool) (calls : List HandlerCall) : Except Crash Daemon :=
  calls.foldlM (step platform) (create verbose)

/-- The loop of `main`: `ProcessEvents` calls some handlers, until the flag is set. -/
def main (verbose : Bool) (rounds : List (List HandlerCall)) : Except Crash Daemon :=
  rounds.foldlM (fun d round => if d.interruptFlag then .ok d else round.foldlM (step platform) d)
    (create verbose)

end Daemon

end Ndisc
