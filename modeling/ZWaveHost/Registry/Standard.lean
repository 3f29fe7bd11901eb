/-
  ZWaveHost.Registry.Standard — the commands of the Host API, by command id.
-/
import ZWaveHost.Registry.Basic

namespace ZWaveHost

namespace Entry

/-- A request that a response answers. -/
def answered (id : UInt8) (name : String) (response : CommandKind) : Entry :=
  ⟨id, .response, .encodeOnly name, some (.decodable response), none⟩

/-- A request that a response and a callback answer. -/
def transmission (id : UInt8) (name : String) (response callback : CommandKind) : Entry :=
  ⟨id, .responseAndCallback, .encodeOnly name, some (.decodable response),
    some (.decodable callback)⟩

/-- A request that nothing but perhaps an ACK answers. -/
def plain (id : UInt8) (flow : Flow) (name : String) : Entry :=
  ⟨id, flow, .encodeOnly name, none, none⟩

/-- A command of the module. -/
def ofModule (id : UInt8) (kind : CommandKind) : Entry :=
  ⟨id, .unsolicited, .decodable kind, none, none⟩

/-- The commands of the Host API. -/
def standard : List Entry :=
  [answered 0x02 "GetInitData" .initData,
   ofModule 0x04 .applicationCommand,
   answered 0x05 "GetControllerCapabilities" .controllerCapabilities,
   answered 0x06 "SetTimeouts" .previousTimeouts,
   answered 0x07 "GetCapabilities" .capabilities,
   plain 0x08 .acknowledged "SoftReset",
   ofModule 0x0A .apiStarted,
   transmission 0x13 "SendData" .sendDataAccepted .sendDataComplete,
   answered 0x15 "GetLibraryVersion" .libraryVersion,
   plain 0x16 .acknowledged "SendDataAbort",
   answered 0x20 "GetNetworkIds" .networkIds,
   answered 0x3B "GetBackgroundRssi" .backgroundRssi,
   answered 0x41 "GetNodeInformationProtocolData" .nodeProtocolInfo,
   ⟨0x42, .callback, .encodeOnly "SetDefault", none, some (.decodable .setDefaultComplete)⟩,
   ofModule 0x49 .applicationUpdate,
   answered 0x56 "GetSucNodeId" .sucNodeId,
   answered 0x60 "RequestNodeInformation" .nodeInformationRequested,
   plain 0xD2 .unacknowledged "StartWatchdog",
   plain 0xD3 .unacknowledged "StopWatchdog",
   transmission 0xE9 "SendNop" .sendNopAccepted .sendNopComplete]

end Entry

/-- The registry of the commands of the Host API. -/
def Registry.standard : Registry := ⟨Entry.standard⟩

/-- The standard entries pass every check. -/
theorem Registry.ofEntries_standard :
    (Registry.ofEntries Entry.standard).map Registry.entries = .ok Registry.standard.entries := by
  rfl

end ZWaveHost
