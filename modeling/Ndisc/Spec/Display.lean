import Ndisc.Spec.Monitor
import Ndisc.Spec.Sender

/-!
# What the daemon prints (`clock_handler.cc`, `lldp.hh`)

With `-v` the daemon clears the screen and prints its devices and its neighbours. Names and
ids go to the terminal as they are. `inet_ntop` of an IPv6 address is a parameter.
-/

namespace Ndisc

open Wire
open Std (ExtTreeMap)

/-! ## Text -/

def ascii (text : String) : Bytes := text.toList.map fun c => UInt8.ofNat c.toNat

/-- A number in `std::dec`. -/
def decimal (n : ℕ) : Bytes := (Nat.toDigits 10 n).map fun c => UInt8.ofNat c.toNat

/-- A byte in `std::hex`, filled up to two digits. -/
def hexByte (b : UInt8) : Bytes :=
  ((if b < 16 then ['0'] else []) ++ Nat.toDigits 16 b.toNat).map fun c => UInt8.ofNat c.toNat

def tab : Bytes := [9]
def newline : Bytes := [10]

/-- `inet_ntop` of an IPv4 address. -/
def inetNtop4 (address : Bytes) : Bytes :=
  ((address.map fun b => decimal b.toNat).intersperse (ascii ".")).flatten

/-! ## Addresses and ports -/

def portTlvSubtypeNet : UInt8 := 0x04

def logMac (mac : Bytes) : Bytes := ((mac.map hexByte).intersperse (ascii ":")).flatten

def logIpv4 (ipv4 : Option (Octets 4)) : Bytes :=
  match ipv4 with
  | some address => inetNtop4 address.toList
  | none => ascii "None"

section

variable (inetNtop6 : Bytes → Bytes)

def logIpv6 (ipv6 : Option (Octets 16)) : Bytes :=
  match ipv6 with
  | some address => inetNtop6 address.toList
  | none => ascii "None"

/-- A port of any other kind, or a MAC of another length, prints nothing. -/
def logPort (port : Bytes) : Bytes :=
  match port with
  | [] => ascii "Missing"
  | subtype :: rest =>
    if subtype = portTlvSubtypeMac ∧ port.length = 7 then logMac rest
    else if subtype = portTlvSubtypeLocal then rest
    else if subtype = portTlvSubtypeNet then
      match rest with
      | [] => []
      | family :: address =>
        if family = managementTlvAddressSubtypeMac ∧ port.length = 8 then logMac address
        else if family = managementTlvAddressSubtypeIpv4 ∧ port.length = 6 then inetNtop4 address
        else if family = managementTlvAddressSubtypeIpv6 ∧ port.length = 18 then inetNtop6 address
        else port.flatMap fun b => hexByte b ++ ascii " "
    else []

/-! ## `DumpInfo` -/

def dumpDevice (device : DeviceData) : Bytes :=
  let row := decimal device.ifIndex.toNat ++ tab ++ device.interfaceName.getD (ascii "---") ++ tab
  if !device.deviceOperational then row ++ ascii "Device down" ++ newline
  else
    let mac := match device.macAddress with
      | some mac => logMac mac.toList
      | none => ascii "None"
    row ++ mac ++ tab ++ logIpv4 device.ipv4Address ++ tab ++ logIpv6 inetNtop6 device.ipv6Address ++
      newline

def dumpNeighbourEntry (neighbour : NeighbourEntry) : Bytes :=
  logPort inetNtop6 neighbour.portId ++ tab ++ decimal neighbour.timeToLive.toNat ++ tab ++
    logIpv4 neighbour.ipv4Address ++ tab ++ logIpv6 inetNtop6 neighbour.ipv6Address ++ tab

/-- The rows of the neighbours. -/
def dumpNeighbours (neighbourList : NeighbourList) : Bytes :=
  neighbourList.chassisMap.toList.flatMap fun (chassisId, portMap) =>
    portMap.toList.flatMap fun (_, neighbour) =>
      chassisId ++ tab ++ dumpNeighbourEntry inetNtop6 neighbour ++ newline

def clearScreen : Bytes := [27] ++ ascii "[2J"

/-- `ClockHandler::DumpInfo`. -/
def dumpInfo (machineId : Bytes) (deviceInfo : ExtTreeMap UInt32 LldpSender)
    (neighbourList : NeighbourList) : Bytes :=
  clearScreen ++ ascii "My Id: " ++ machineId ++ newline ++ ascii "Device data:\n" ++
    ascii "IDX\tName\tMAC\tIPv4\tIPv6\t\n" ++
    deviceInfo.toList.flatMap (fun (_, sender) => dumpDevice inetNtop6 sender.deviceData) ++
    ascii "\n\n" ++
    ascii "Found " ++ decimal neighbourList.chassisMap.size ++ ascii " chassis\n" ++
    ascii "\n\nNeighbours:\n" ++ ascii "Chassis\tPort\tTTL\tIPv4\tIPv6\t\n" ++
    dumpNeighbours inetNtop6 neighbourList

end

end Ndisc
