/-
  ZWaveHost.Command.Node — what the module passes on about and from other nodes.
-/
import ZWaveHost.Command.Value

namespace ZWaveHost

/-! ## §1. Node information -/

/-- What a node is and can do. -/
structure NodeProtocolInfo where
  listening : Bool
  routing : Bool
  supportedSpeed : UInt32
  protocolVersion : UInt8
  optionalFunctionality : Bool
  sensor1000ms : Bool
  sensor250ms : Bool
  beamCapability : Bool
  routingEndNode : Bool
  specificDevice : Bool
  controllerNode : Bool
  security : Bool
  speedExtension : UInt8
  basicDeviceClass : UInt8
  genericDeviceClass : UInt8
  specificDeviceClass : UInt8
  deriving DecidableEq

namespace NodeProtocolInfo

/-- The protocol version is counted from zero on the line. -/
def decode : Decode NodeProtocolInfo := do
  let capability ← Buffer.next
  let security ← Buffer.next
  let speed ← Buffer.next
  let basicDeviceClass ← Buffer.next
  let genericDeviceClass ← Buffer.next
  let specificDeviceClass ← Buffer.next
  return {
    listening := capability.toNat.testBit 7
    routing := capability.toNat.testBit 6
    supportedSpeed := if capability &&& 0x38 = 0x10 then 40000 else 9600
    protocolVersion := (capability &&& 0x07) + 1
    optionalFunctionality := security.toNat.testBit 7
    sensor1000ms := security.toNat.testBit 6
    sensor250ms := security.toNat.testBit 5
    beamCapability := security.toNat.testBit 4
    routingEndNode := security.toNat.testBit 3
    specificDevice := security.toNat.testBit 2
    controllerNode := security.toNat.testBit 1
    security := security.toNat.testBit 0
    speedExtension := speed &&& 0x07
    basicDeviceClass, genericDeviceClass, specificDeviceClass }

/-- Whether the node wakes up from time to time to listen. -/
def isFrequentlyListening (n : NodeProtocolInfo) : Bool := n.sensor1000ms || n.sensor250ms

end NodeProtocolInfo

/-- Whether a node was asked for its information. -/
structure NodeInformationRequested where
  success : Bool
  deriving DecidableEq

/-- The answer is the payload's first byte, wherever the cursor stands. -/
def NodeInformationRequested.decode : Decode NodeInformationRequested := do
  return { success := (← Buffer.peek 0) ≠ 0x00 }

/-- News about the network or a node of it. -/
structure ApplicationUpdate where
  event : UpdateEvent
  nodeId : UInt8
  basicDeviceType : Option UInt8
  genericDeviceType : Option UInt8
  specificDeviceType : Option UInt8
  commandClasses : List UInt8
  deriving DecidableEq

/-- The length byte counts the three device types as well. -/
def ApplicationUpdate.decode : Decode ApplicationUpdate := do
  let event ← ExceptT.mk (pure (UpdateEvent.ofByte (← Buffer.next)))
  let nodeId ← Buffer.next
  let length ← Buffer.next
  if length = 0 then
    return {
      event, nodeId
      basicDeviceType := none
      genericDeviceType := none
      specificDeviceType := none
      commandClasses := [] }
  else
    let basic ← Buffer.next
    let generic ← Buffer.next
    let specific ← Buffer.next
    let commandClasses ← Buffer.nextBytes (length.toNat - 3)
    return {
      event, nodeId
      basicDeviceType := some basic
      genericDeviceType := some generic
      specificDeviceType := some specific
      commandClasses }

/-! ## §2. Application commands -/

/-- A command class frame from another node. -/
structure ApplicationCommand where
  rxStatus : List RxStatus
  sourceNodeId : UInt8
  payload : List UInt8
  rssi : Option RssiMeasurement
  deriving DecidableEq

namespace ApplicationCommand

/-- Some modules do not append the signal strength. -/
def decode : Decode ApplicationCommand := do
  let rxStatus := RxStatus.ofByte (← Buffer.next)
  let sourceNodeId ← Buffer.next
  let length ← Buffer.next
  let payload ← Buffer.nextBytes length.toNat
  let rssi ← Buffer.next?
  return { rxStatus, sourceNodeId, payload, rssi := rssi.map RssiMeasurement.ofByte }

/-- The command class of the frame. -/
def commandClass? (c : ApplicationCommand) : Option UInt8 := c.payload.head?

end ApplicationCommand

end ZWaveHost
