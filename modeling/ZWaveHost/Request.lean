/-
  ZWaveHost.Request — the requests that the host sends.

  A request has a command id and a payload, which together make its frame.
  Only data to send can be too long for one frame.
-/
import ZWaveHost.Frame
import ZWaveHost.Command.Value

namespace ZWaveHost

/-- A request of the host; `raw` is one that is not known here. -/
inductive Request where
  | getInitData
  | getControllerCapabilities
  | setTimeouts (rxAckTimeout rxByteTimeout : UInt8)
  | getCapabilities
  | softReset
  | sendData (nodeId : UInt8) (data : List UInt8) (options : TxOptions) (sessionId : UInt8)
  | getLibraryVersion
  | sendDataAbort
  | getNetworkIds
  | getBackgroundRssi
  | getNodeInformationProtocolData (nodeId : UInt8)
  | setDefault (sessionId : UInt8)
  | getSucNodeId
  | requestNodeInformation (nodeId : UInt8)
  | startWatchdog
  | stopWatchdog
  | sendNop (nodeId : UInt8) (options : TxOptions) (sessionId : UInt8)
  | raw (commandId : UInt8) (payload : List UInt8)
  deriving DecidableEq

namespace Request

/-- The command id of a Soft Reset. -/
def softResetId : UInt8 := 0x08

/-- The command id of a request. -/
def commandId : Request → UInt8
  | .getInitData => 0x02
  | .getControllerCapabilities => 0x05
  | .setTimeouts _ _ => 0x06
  | .getCapabilities => 0x07
  | .softReset => softResetId
  | .sendData _ _ _ _ => 0x13
  | .getLibraryVersion => 0x15
  | .sendDataAbort => 0x16
  | .getNetworkIds => 0x20
  | .getBackgroundRssi => 0x3B
  | .getNodeInformationProtocolData _ => 0x41
  | .setDefault _ => 0x42
  | .getSucNodeId => 0x56
  | .requestNodeInformation _ => 0x60
  | .startWatchdog => 0xD2
  | .stopWatchdog => 0xD3
  | .sendNop _ _ _ => 0xE9
  | .raw commandId _ => commandId

/-- The payload of a request.  Data are preceded by their length in one byte,
    and an empty frame always asks for an acknowledgement. -/
def payload : Request → List UInt8
  | .setTimeouts rxAckTimeout rxByteTimeout => [rxAckTimeout, rxByteTimeout]
  | .sendData nodeId data options sessionId =>
    nodeId :: UInt8.ofNat data.length :: data ++ [options.bits, sessionId]
  | .getNodeInformationProtocolData nodeId => [nodeId]
  | .setDefault sessionId => [sessionId]
  | .requestNodeInformation nodeId => [nodeId]
  | .sendNop nodeId options sessionId => [nodeId, (TxOptions.ack.union options).bits, sessionId]
  | .raw _ payload => payload
  | _ => []

/-- The frame of a request. -/
def toFrame (r : Request) : Except FrameError DataFrame :=
  DataFrame.build .request r.commandId r.payload

end Request

end ZWaveHost
