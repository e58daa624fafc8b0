import Ndisc.Lib.Journal
import Ndisc.Lib.Lease
import Ndisc.Spec.Monitor
import Ndisc.Proof.Bounds
import Ndisc.Proof.Table
import Ndisc.Lib.Run
import Ndisc.Spec.Sender
import Ndisc.Proof.Frame
import Ndisc.Proof.Credits
import Ndisc.Proof.Cadence
import Ndisc.Proof.Hold
import Ndisc.Spec.Client
import Ndisc.Proof.Dump
import Ndisc.Proof.Arrays
import Ndisc.Lib.Vfs
import Ndisc.Spec.Listen
import Ndisc.Proof.Lock
import Ndisc.Lib.Upsert
import Ndisc.Spec.Device
import Ndisc.Proof.Resync
import Ndisc.Proof.Announce
import Ndisc.Proof.Operational
import Ndisc.Lib.Requests
import Ndisc.Proof.Protocol
import Ndisc.Spec.Repository
import Ndisc.Proof.Provenance
import Ndisc.Proof.Connection
import Ndisc.Lib.Records
import Ndisc.Spec.Parser
import Ndisc.Proof.Parser
import Ndisc.Lib.Tickets
import Ndisc.Proof.Registration
import Ndisc.Proof.Synchronise
import Ndisc.Proof.FastStart
import Ndisc.Proof.Reader
import Ndisc.Proof.Refill
import Ndisc.Proof.Schedule
import Ndisc.Proof.Commute
import Ndisc.Proof.Interface
import Ndisc.Proof.Cleanup
import Ndisc.Lib.Sweep
import Ndisc.Proof.Clients
import Ndisc.Lib.Walk
import Ndisc.Proof.Datagram
import Ndisc.Proof.Extent
import Ndisc.Proof.Managers
import Ndisc.Lib.Pointers
import Ndisc.Spec.Moves
import Ndisc.Proof.Moves
import Ndisc.Lib.Purge
import Ndisc.Spec.Receive
import Ndisc.Proof.Receive
import Ndisc.Spec.Display
import Ndisc.Spec.Daemon
import Ndisc.Proof.Daemon
import Ndisc.Proof.Goodbye
import Ndisc.Proof.Sources
import Ndisc.Proof.Safety
import Ndisc.Proof.Answers
import Ndisc.Spec.Segment
import Ndisc.Proof.Hosts
import Ndisc.Proof.Identity
import Ndisc.Proof.Lanes
import Ndisc.Proof.Pace
import Ndisc.Proof.Segment
import Ndisc.Proof.Dispatch
import Ndisc.Proof.Server
