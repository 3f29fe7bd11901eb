/-
  ZWaveHost.Command.Value — the coded values inside payloads.

  Most codes that are not known stand for a value of their own (`unknown`,
  `noReport`); an update event that is not known has no value.  Flag bytes
  are read as the list of the flags they match, in a fixed order; a flag
  with several bits matches if any of them is set.
-/
import ZWaveHost.Buffer

namespace ZWaveHost

/-! ## §1. Bit masks -/

/-- The ids whose bits are set in a bit mask: bit `b` of byte `i` stands for
    the id `base + 8 i + b`, in words of sixteen bits. -/
def idsFromBitmask (base : UInt16) (mask : List UInt8) : List UInt16 :=
  mask.zipIdx.flatMap fun (byte, i) =>
    ((List.range 8).filter fun b => byte.toNat.testBit b).map fun b =>
      base + UInt16.ofNat i * 8 + UInt16.ofNat b

/-- The flags of `all` whose mask has a bit in common with `value`. -/
def flagsIn {α : Type} (all : List α) (mask : α → UInt8) (value : UInt8) : List α :=
  all.filter fun flag => value &&& mask flag != 0

/-! ## §2. Codes -/

/-- The protocol library that runs on the module. -/
inductive LibraryType where
  | staticController
  | portableController
  | enhancedEndNode
  | endNode
  | installer
  | routingEndNode
  | bridgeController
  | unknown
  deriving DecidableEq, Inhabited

def LibraryType.ofByte (b : UInt8) : LibraryType :=
  match b.toNat with
  | 0x01 => .staticController
  | 0x02 => .portableController
  | 0x03 => .enhancedEndNode
  | 0x04 => .endNode
  | 0x05 => .installer
  | 0x06 => .routingEndNode
  | 0x07 => .bridgeController
  | _ => .unknown

/-- How a radio transmission ended. -/
inductive TxStatus where
  | completeOk
  | completeNoAck
  | completeFail
  | routingNotIdle
  | completeNoRoute
  | completeVerified
  /-- The module reported no status. -/
  | noReport
  deriving DecidableEq, Inhabited

namespace TxStatus

def ofByte (b : UInt8) : TxStatus :=
  match b.toNat with
  | 0x00 => .completeOk
  | 0x01 => .completeNoAck
  | 0x02 => .completeFail
  | 0x03 => .routingNotIdle
  | 0x04 => .completeNoRoute
  | 0x05 => .completeVerified
  | _ => .noReport

def toByte : TxStatus → UInt8
  | .completeOk => 0x00
  | .completeNoAck => 0x01
  | .completeFail => 0x02
  | .routingNotIdle => 0x03
  | .completeNoRoute => 0x04
  | .completeVerified => 0x05
  | .noReport => 0xFF

/-- Whether the destination got the transmission, as far as is known. -/
def isSuccess (s : TxStatus) : Bool := s = .completeOk || s = .completeVerified

end TxStatus

/-- A received signal strength. -/
inductive RssiMeasurement where
  | dbm (value : Int8)
  | belowSensitivity
  | receiverSaturated
  | notAvailable
  deriving DecidableEq, Inhabited

namespace RssiMeasurement

def ofByte (b : UInt8) : RssiMeasurement :=
  if b = 0x7D then .belowSensitivity
  else if b = 0x7E then .receiverSaturated
  else if b = 0x7F then .notAvailable
  else .dbm b.toInt8

/-- The strength in dBm, if one was measured. -/
def dbm? : RssiMeasurement → Option Int8
  | .dbm value => some value
  | _ => none

end RssiMeasurement

/-- Why the module started. -/
inductive WakeupReason where
  | reset
  | wakeupTimer
  | wakeupBeam
  | watchdogReset
  | externalInterrupt
  | powerUp
  | usbSuspend
  | softwareReset
  | emergencyWatchdogReset
  | brownoutCircuit
  | unknown
  deriving DecidableEq, Inhabited

def WakeupReason.ofByte (b : UInt8) : WakeupReason :=
  match b.toNat with
  | 0x00 => .reset
  | 0x01 => .wakeupTimer
  | 0x02 => .wakeupBeam
  | 0x03 => .watchdogReset
  | 0x04 => .externalInterrupt
  | 0x05 => .powerUp
  | 0x06 => .usbSuspend
  | 0x07 => .softwareReset
  | 0x08 => .emergencyWatchdogReset
  | 0x09 => .brownoutCircuit
  | _ => .unknown

/-- What an application update reports. -/
inductive UpdateEvent where
  | sucId
  | deleteDone
  | newIdAssigned
  | routingPending
  | nodeInfoRequestFailed
  | nodeInfoRequestDone
  | nopPowerReceived
  | nodeInfoReceived
  | smartStartHomeIdReceived
  | includedNodeInfoReceived
  | smartStartHomeIdReceivedLongRange
  deriving DecidableEq, Inhabited

def UpdateEvent.ofByte (b : UInt8) : Except CodecError UpdateEvent :=
  match b.toNat with
  | 0x10 => .ok .sucId
  | 0x20 => .ok .deleteDone
  | 0x40 => .ok .newIdAssigned
  | 0x80 => .ok .routingPending
  | 0x81 => .ok .nodeInfoRequestFailed
  | 0x82 => .ok .nodeInfoRequestDone
  | 0x83 => .ok .nopPowerReceived
  | 0x84 => .ok .nodeInfoReceived
  | 0x85 => .ok .smartStartHomeIdReceived
  | 0x86 => .ok .includedNodeInfoReceived
  | 0x87 => .ok .smartStartHomeIdReceivedLongRange
  | _ => .error (.invalidValue "application update event" b)

/-! ## §3. Flags -/

/-- How a frame reached the module. -/
inductive RxStatus where
  | lowPower
  | broadcastAddressing
  deriving DecidableEq, Inhabited

namespace RxStatus

def all : List RxStatus := [.lowPower, .broadcastAddressing]

def mask : RxStatus → UInt8
  | .lowPower => 0x02
  | .broadcastAddressing => 0x08

def ofByte (b : UInt8) : List RxStatus := flagsIn all mask b

end RxStatus

/-- What a controller is and is part of. -/
inductive ControllerCapability where
  | secondaryController
  | otherNetwork
  | sisIsPresent
  | sucEnabled
  | noNodesIncluded
  deriving DecidableEq, Inhabited

namespace ControllerCapability

def all : List ControllerCapability :=
  [.secondaryController, .otherNetwork, .sisIsPresent, .sucEnabled, .noNodesIncluded]

def mask : ControllerCapability → UInt8
  | .secondaryController => 0xF0
  | .otherNetwork => 0x80
  | .sisIsPresent => 0x40
  | .sucEnabled => 0x10
  | .noNodesIncluded => 0x0F

def ofByte (b : UInt8) : List ControllerCapability := flagsIn all mask b

end ControllerCapability

/-- What the initial data say of the module. -/
inductive InitCapability where
  | controller
  | timerFunctions
  | primaryController
  | sisFunctionality
  deriving DecidableEq, Inhabited

namespace InitCapability

def all : List InitCapability :=
  [.controller, .timerFunctions, .primaryController, .sisFunctionality]

def mask : InitCapability → UInt8
  | .controller => 0x01
  | .timerFunctions => 0x02
  | .primaryController => 0x04
  | .sisFunctionality => 0x08

def ofByte (b : UInt8) : List InitCapability := flagsIn all mask b

end InitCapability

/-! ## §4. Transmit options -/

/-- A set of transmit options. -/
structure TxOptions where
  bits : UInt8
  deriving DecidableEq, Inhabited

namespace TxOptions

/-- The destination is to acknowledge. -/
def ack : TxOptions := ⟨0x01⟩

/-- Repeaters may be used when the destination is out of range. -/
def autoRoute : TxOptions := ⟨0x04⟩

/-- No repeaters are to be used. -/
def noRoute : TxOptions := ⟨0x10⟩

/-- Explorer frames may look for a route. -/
def explore : TxOptions := ⟨0x20⟩

/-- No option. -/
def empty : TxOptions := ⟨0⟩

/-- The options of either set. -/
def union (a b : TxOptions) : TxOptions := ⟨a.bits ||| b.bits⟩

/-- Whether a set has every option of another one. -/
def contains (a b : TxOptions) : Bool := a.bits &&& b.bits == b.bits

end TxOptions

end ZWaveHost
