import Ndisc.Lib.Wire

/-!
# Netlink messages (`netlink_monitor.hh`)

The views that `packetViewParser` makes of the messages of the kernel.
-/

namespace Ndisc.Netlink

open Wire

def nlmsgError : UInt16 := 2
def nlmsgDone : UInt16 := 3
def rtmNewlink : UInt16 := 16
def rtmDellink : UInt16 := 17
def rtmGetlink : UInt16 := 18
def rtmNewaddr : UInt16 := 20
def rtmDeladdr : UInt16 := 21
def rtmGetaddr : UInt16 := 22

structure Nlmsghdr where
  nlmsgLen : UInt32
  nlmsgType : UInt16
  nlmsgFlags : UInt16
  nlmsgSeq : UInt32
  nlmsgPid : UInt32
  deriving DecidableEq

structure Rtattr where
  rtaLen : UInt16
  rtaType : UInt16
  deriving DecidableEq

structure TLVView where
  attributeHeader : Rtattr
  value : Bytes
  deriving DecidableEq

structure NetlinkMessage (T : Type) where
  header : Nlmsghdr
  content : T
  deriving DecidableEq

structure Ifinfomsg where
  ifiFamily : UInt8
  ifiType : UInt16
  ifiIndex : Int32
  ifiFlags : UInt32
  ifiChange : UInt32
  deriving DecidableEq

structure LinkContentView where
  interfaceInfo : Ifinfomsg
  attributes : List TLVView
  deriving DecidableEq

abbrev LinkView := NetlinkMessage LinkContentView

structure Ifaddrmsg where
  ifaFamily : UInt8
  ifaPrefixlen : UInt8
  ifaFlags : UInt8
  ifaScope : UInt8
  ifaIndex : UInt32
  deriving DecidableEq

structure AddrContentView where
  addressInfo : Ifaddrmsg
  attributes : List TLVView
  deriving DecidableEq

abbrev AddrView := NetlinkMessage AddrContentView

abbrev DoneView := NetlinkMessage Int32

structure Nlmsgerr where
  error : Int32
  msg : Nlmsghdr
  deriving DecidableEq

structure ErrorContentView where
  messageError : Nlmsgerr
  originalContent : Option Bytes
  attributes : List TLVView
  deriving DecidableEq

abbrev ErrorView := NetlinkMessage ErrorContentView

abbrev MessageView := NetlinkMessage Bytes

inductive NetlinkPacketView
  | message (view : MessageView)
  | link (view : LinkView)
  | addr (view : AddrView)
  | error (view : ErrorView)
  | done (view : DoneView)
  deriving DecidableEq

def NetlinkPacketView.header : NetlinkPacketView → Nlmsghdr
  | .message view => view.header
  | .link view => view.header
  | .addr view => view.header
  | .error view => view.header
  | .done view => view.header

end Ndisc.Netlink
