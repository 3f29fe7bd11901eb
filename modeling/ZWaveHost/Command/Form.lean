/-
  ZWaveHost.Command.Form — the JSON forms of commands and their values.

  A record is an object of all its fields, a code is its name, and a command
  is an object with one field: the name of its kind and what it holds.
-/
import ZWaveHost.Command
import ZWaveHost.Json.Form

namespace ZWaveHost

open Json (Fields fields?)

/-! ## §1. Names of codes -/

def LibraryType.name : LibraryType → String
  | .staticController => "StaticController"
  | .portableController => "PortableController"
  | .enhancedEndNode => "EnhancedEndNode"
  | .endNode => "EndNode"
  | .installer => "Installer"
  | .routingEndNode => "RoutingEndNode"
  | .bridgeController => "BridgeController"
  | .unknown => "Unknown"

def LibraryType.all : List LibraryType :=
  [.staticController, .portableController, .enhancedEndNode, .endNode, .installer,
   .routingEndNode, .bridgeController, .unknown]

instance : JsonForm LibraryType where
  toJson t := .text t.name
  ofJson? := Json.ofName? LibraryType.all LibraryType.name

def TxStatus.name : TxStatus → String
  | .completeOk => "CompleteOk"
  | .completeNoAck => "CompleteNoAck"
  | .completeFail => "CompleteFail"
  | .routingNotIdle => "RoutingNotIdle"
  | .completeNoRoute => "CompleteNoRoute"
  | .completeVerified => "CompleteVerified"
  | .noReport => "NoReport"

def TxStatus.all : List TxStatus :=
  [.completeOk, .completeNoAck, .completeFail, .routingNotIdle, .completeNoRoute,
   .completeVerified, .noReport]

instance : JsonForm TxStatus where
  toJson s := .text s.name
  ofJson? := Json.ofName? TxStatus.all TxStatus.name

def WakeupReason.name : WakeupReason → String
  | .reset => "Reset"
  | .wakeupTimer => "WakeupTimer"
  | .wakeupBeam => "WakeupBeam"
  | .watchdogReset => "WatchdogReset"
  | .externalInterrupt => "ExternalInterrupt"
  | .powerUp => "PowerUp"
  | .usbSuspend => "UsbSuspend"
  | .softwareReset => "SoftwareReset"
  | .emergencyWatchdogReset => "EmergencyWatchdogReset"
  | .brownoutCircuit => "BrownoutCircuit"
  | .unknown => "Unknown"

def WakeupReason.all : List WakeupReason :=
  [.reset, .wakeupTimer, .wakeupBeam, .watchdogReset, .externalInterrupt, .powerUp,
   .usbSuspend, .softwareReset, .emergencyWatchdogReset, .brownoutCircuit, .unknown]

instance : JsonForm WakeupReason where
  toJson r := .text r.name
  ofJson? := Json.ofName? WakeupReason.all WakeupReason.name

def UpdateEvent.name : UpdateEvent → String
  | .sucId => "SucId"
  | .deleteDone => "DeleteDone"
  | .newIdAssigned => "NewIdAssigned"
  | .routingPending => "RoutingPending"
  | .nodeInfoRequestFailed => "NodeInfoRequestFailed"
  | .nodeInfoRequestDone => "NodeInfoRequestDone"
  | .nopPowerReceived => "NopPowerReceived"
  | .nodeInfoReceived => "NodeInfoReceived"
  | .smartStartHomeIdReceived => "SmartStartHomeIdReceived"
  | .includedNodeInfoReceived => "IncludedNodeInfoReceived"
  | .smartStartHomeIdReceivedLongRange => "SmartStartHomeIdReceivedLongRange"

def UpdateEvent.all : List UpdateEvent :=
  [.sucId, .deleteDone, .newIdAssigned, .routingPending, .nodeInfoRequestFailed,
   .nodeInfoRequestDone, .nopPowerReceived, .nodeInfoReceived, .smartStartHomeIdReceived,
   .includedNodeInfoReceived, .smartStartHomeIdReceivedLongRange]

instance : JsonForm UpdateEvent where
  toJson e := .text e.name
  ofJson? := Json.ofName? UpdateEvent.all UpdateEvent.name

def RxStatus.name : RxStatus → String
  | .lowPower => "LowPower"
  | .broadcastAddressing => "BroadcastAddressing"

instance : JsonForm RxStatus where
  toJson s := .text s.name
  ofJson? := Json.ofName? RxStatus.all RxStatus.name

def ControllerCapability.name : ControllerCapability → String
  | .secondaryController => "SecondaryController"
  | .otherNetwork => "OtherNetwork"
  | .sisIsPresent => "SisIsPresent"
  | .sucEnabled => "SucEnabled"
  | .noNodesIncluded => "NoNodesIncluded"

instance : JsonForm ControllerCapability where
  toJson c := .text c.name
  ofJson? := Json.ofName? ControllerCapability.all ControllerCapability.name

def InitCapability.name : InitCapability → String
  | .controller => "Controller"
  | .timerFunctions => "TimerFunctions"
  | .primaryController => "PrimaryController"
  | .sisFunctionality => "SisFunctionality"

instance : JsonForm InitCapability where
  toJson c := .text c.name
  ofJson? := Json.ofName? InitCapability.all InitCapability.name

instance : JsonForm CommandKind where
  toJson k := .text k.name
  ofJson? := Json.ofName? CommandKind.all CommandKind.name

/-! ## §2. Values -/

/-- The codes that carry no number. -/
def RssiMeasurement.unmeasuredName : RssiMeasurement → String
  | .dbm _ => "Dbm"
  | .belowSensitivity => "BelowSensitivity"
  | .receiverSaturated => "ReceiverSaturated"
  | .notAvailable => "NotAvailable"

instance : JsonForm RssiMeasurement where
  toJson
    | .dbm value => .tagged "Dbm" (toJson value)
    | m => .text m.unmeasuredName
  ofJson?
    | .object [(some "Dbm", value)] => (ofJson? value).map .dbm
    | j => Json.ofName? [.belowSensitivity, .receiverSaturated, .notAvailable]
        RssiMeasurement.unmeasuredName j

/-- A set of options is the number of its bits. -/
instance : JsonForm TxOptions where
  toJson o := toJson o.bits
  ofJson? j := (ofJson? j).map TxOptions.mk

instance : JsonForm Version where
  toJson v := .record
    [("major", toJson v.major), ("minor", toJson v.minor), ("patch", toJson v.patch)]
  ofJson? j := do
    let f ← fields? ["major", "minor", "patch"] j
    return ⟨← f.required? "major", ← f.optional? "minor", ← f.optional? "patch"⟩

/-! ## §3. Commands about the module -/

instance : JsonForm InitData where
  toJson d := .record
    [("api_version", toJson d.apiVersion), ("capabilities", toJson d.capabilities),
     ("nodes", toJson d.nodes), ("chip_type", toJson d.chipType),
     ("chip_version", toJson d.chipVersion)]
  ofJson? j := do
    let f ← fields? ["api_version", "capabilities", "nodes", "chip_type", "chip_version"] j
    return ⟨← f.required? "api_version", ← f.required? "capabilities", ← f.required? "nodes",
      ← f.required? "chip_type", ← f.required? "chip_version"⟩

instance : JsonForm ApiStarted where
  toJson s := .record
    [("wakeup_reason", toJson s.wakeupReason), ("watchdog_started", toJson s.watchdogStarted),
     ("device_option_mask", toJson s.deviceOptionMask),
     ("generic_device_type", toJson s.genericDeviceType),
     ("specific_device_type", toJson s.specificDeviceType),
     ("command_classes", toJson s.commandClasses),
     ("supports_long_range", toJson s.supportsLongRange)]
  ofJson? j := do
    let f ← fields? ["wakeup_reason", "watchdog_started", "device_option_mask",
      "generic_device_type", "specific_device_type", "command_classes",
      "supports_long_range"] j
    return ⟨← f.required? "wakeup_reason", ← f.required? "watchdog_started",
      ← f.required? "device_option_mask", ← f.required? "generic_device_type",
      ← f.required? "specific_device_type", ← f.required? "command_classes",
      ← f.required? "supports_long_range"⟩

instance : JsonForm ControllerCapabilities where
  toJson c := .record [("capabilities", toJson c.capabilities)]
  ofJson? j := do
    let f ← fields? ["capabilities"] j
    return ⟨← f.required? "capabilities"⟩

instance : JsonForm Capabilities where
  toJson c := .record
    [("api_version", toJson c.apiVersion), ("manufacturer_id", toJson c.manufacturerId),
     ("product_type", toJson c.productType), ("product_id", toJson c.productId),
     ("supported_commands", toJson c.supportedCommands)]
  ofJson? j := do
    let f ← fields? ["api_version", "manufacturer_id", "product_type", "product_id",
      "supported_commands"] j
    return ⟨← f.required? "api_version", ← f.required? "manufacturer_id",
      ← f.required? "product_type", ← f.required? "product_id",
      ← f.required? "supported_commands"⟩

instance : JsonForm LibraryVersion where
  toJson v := .record
    [("description", toJson v.description), ("version", toJson v.version),
     ("library_type", toJson v.libraryType)]
  ofJson? j := do
    let f ← fields? ["description", "version", "library_type"] j
    return ⟨← f.required? "description", ← f.required? "version", ← f.required? "library_type"⟩

instance : JsonForm PreviousTimeouts where
  toJson t := .record
    [("rx_ack_timeout", toJson t.rxAckTimeout), ("rx_byte_timeout", toJson t.rxByteTimeout)]
  ofJson? j := do
    let f ← fields? ["rx_ack_timeout", "rx_byte_timeout"] j
    return ⟨← f.required? "rx_ack_timeout", ← f.required? "rx_byte_timeout"⟩

instance : JsonForm NetworkIds where
  toJson n := .record [("home_id", toJson n.homeId), ("node_id", toJson n.nodeId)]
  ofJson? j := do
    let f ← fields? ["home_id", "node_id"] j
    return ⟨← f.required? "home_id", ← f.required? "node_id"⟩

instance : JsonForm SetDefaultComplete where
  toJson s := .record [("session_id", toJson s.sessionId)]
  ofJson? j := do
    let f ← fields? ["session_id"] j
    return ⟨← f.required? "session_id"⟩

instance : JsonForm SucNodeId where
  toJson s := .record [("node_id", toJson s.nodeId)]
  ofJson? j := do
    let f ← fields? ["node_id"] j
    return ⟨← f.required? "node_id"⟩

/-! ## §4. Commands about nodes -/

instance : JsonForm NodeProtocolInfo where
  toJson n := .record
    [("listening", toJson n.listening), ("routing", toJson n.routing),
     ("supported_speed", toJson n.supportedSpeed),
     ("protocol_version", toJson n.protocolVersion),
     ("optional_functionality", toJson n.optionalFunctionality),
     ("sensor_1000ms", toJson n.sensor1000ms), ("sensor_250ms", toJson n.sensor250ms),
     ("beam_capability", toJson n.beamCapability),
     ("routing_end_node", toJson n.routingEndNode),
     ("specific_device", toJson n.specificDevice),
     ("controller_node", toJson n.controllerNode), ("security", toJson n.security),
     ("speed_extension", toJson n.speedExtension),
     ("basic_device_class", toJson n.basicDeviceClass),
     ("generic_device_class", toJson n.genericDeviceClass),
     ("specific_device_class", toJson n.specificDeviceClass)]
  ofJson? j := do
    let f ← fields? ["listening", "routing", "supported_speed", "protocol_version",
      "optional_functionality", "sensor_1000ms", "sensor_250ms", "beam_capability",
      "routing_end_node", "specific_device", "controller_node", "security",
      "speed_extension", "basic_device_class", "generic_device_class",
      "specific_device_class"] j
    return {
      listening := ← f.required? "listening"
      routing := ← f.required? "routing"
      supportedSpeed := ← f.required? "supported_speed"
      protocolVersion := ← f.required? "protocol_version"
      optionalFunctionality := ← f.required? "optional_functionality"
      sensor1000ms := ← f.required? "sensor_1000ms"
      sensor250ms := ← f.required? "sensor_250ms"
      beamCapability := ← f.required? "beam_capability"
      routingEndNode := ← f.required? "routing_end_node"
      specificDevice := ← f.required? "specific_device"
      controllerNode := ← f.required? "controller_node"
      security := ← f.required? "security"
      speedExtension := ← f.required? "speed_extension"
      basicDeviceClass := ← f.required? "basic_device_class"
      genericDeviceClass := ← f.required? "generic_device_class"
      specificDeviceClass := ← f.required? "specific_device_class" }

instance : JsonForm NodeInformationRequested where
  toJson r := .record [("success", toJson r.success)]
  ofJson? j := do
    let f ← fields? ["success"] j
    return ⟨← f.required? "success"⟩

instance : JsonForm ApplicationUpdate where
  toJson u := .record
    [("event", toJson u.event), ("node_id", toJson u.nodeId),
     ("basic_device_type", toJson u.basicDeviceType),
     ("generic_device_type", toJson u.genericDeviceType),
     ("specific_device_type", toJson u.specificDeviceType),
     ("command_classes", toJson u.commandClasses)]
  ofJson? j := do
    let f ← fields? ["event", "node_id", "basic_device_type", "generic_device_type",
      "specific_device_type", "command_classes"] j
    return ⟨← f.required? "event", ← f.required? "node_id", ← f.optional? "basic_device_type",
      ← f.optional? "generic_device_type", ← f.optional? "specific_device_type",
      ← f.required? "command_classes"⟩

instance : JsonForm ApplicationCommand where
  toJson c := .record
    [("rx_status", toJson c.rxStatus), ("source_node_id", toJson c.sourceNodeId),
     ("payload", toJson c.payload), ("rssi", toJson c.rssi)]
  ofJson? j := do
    let f ← fields? ["rx_status", "source_node_id", "payload", "rssi"] j
    return ⟨← f.required? "rx_status", ← f.required? "source_node_id",
      ← f.required? "payload", ← f.optional? "rssi"⟩

/-! ## §5. Commands about transmissions -/

instance : JsonForm SendDataAccepted where
  toJson a := .record [("accepted", toJson a.accepted)]
  ofJson? j := do
    let f ← fields? ["accepted"] j
    return ⟨← f.required? "accepted"⟩

instance : JsonForm SendNopAccepted where
  toJson a := .record [("accepted", toJson a.accepted)]
  ofJson? j := do
    let f ← fields? ["accepted"] j
    return ⟨← f.required? "accepted"⟩

instance : JsonForm TxReport where
  toJson r := .record
    [("session_id", toJson r.sessionId), ("tx_status", toJson r.txStatus),
     ("report", toJson r.report)]
  ofJson? j := do
    let f ← fields? ["session_id", "tx_status", "report"] j
    return ⟨← f.required? "session_id", ← f.required? "tx_status", ← f.required? "report"⟩

instance : JsonForm SendDataComplete where
  toJson c := toJson c.toTxReport
  ofJson? j := (ofJson? j).map SendDataComplete.mk

instance : JsonForm SendNopComplete where
  toJson c := toJson c.toTxReport
  ofJson? j := (ofJson? j).map SendNopComplete.mk

/-- The readings are an array of exactly three. -/
instance : JsonForm BackgroundRssi where
  toJson r := .record [("channels", toJson r.channels)]
  ofJson? j := do
    let f ← fields? ["channels"] j
    match ← f.required? "channels" with
    | [a, b, c] => return ⟨a, b, c⟩
    | _ => none

/-! ## §6. Commands -/

namespace Command

/-- The JSON form of what a command holds. -/
def valueJson : Command → Json
  | .initData v => toJson v
  | .applicationCommand v => toJson v
  | .controllerCapabilities v => toJson v
  | .previousTimeouts v => toJson v
  | .capabilities v => toJson v
  | .apiStarted v => toJson v
  | .sendDataAccepted v => toJson v
  | .sendDataComplete v => toJson v
  | .libraryVersion v => toJson v
  | .networkIds v => toJson v
  | .backgroundRssi v => toJson v
  | .nodeProtocolInfo v => toJson v
  | .setDefaultComplete v => toJson v
  | .applicationUpdate v => toJson v
  | .sucNodeId v => toJson v
  | .nodeInformationRequested v => toJson v
  | .sendNopAccepted v => toJson v
  | .sendNopComplete v => toJson v

/-- The command of a given kind that holds what a document is the form of. -/
def ofValueJson? (kind : CommandKind) (j : Json) : Option Command :=
  match kind with
  | .initData => (ofJson? j).map .initData
  | .applicationCommand => (ofJson? j).map .applicationCommand
  | .controllerCapabilities => (ofJson? j).map .controllerCapabilities
  | .previousTimeouts => (ofJson? j).map .previousTimeouts
  | .capabilities => (ofJson? j).map .capabilities
  | .apiStarted => (ofJson? j).map .apiStarted
  | .sendDataAccepted => (ofJson? j).map .sendDataAccepted
  | .sendDataComplete => (ofJson? j).map .sendDataComplete
  | .libraryVersion => (ofJson? j).map .libraryVersion
  | .networkIds => (ofJson? j).map .networkIds
  | .backgroundRssi => (ofJson? j).map .backgroundRssi
  | .nodeProtocolInfo => (ofJson? j).map .nodeProtocolInfo
  | .setDefaultComplete => (ofJson? j).map .setDefaultComplete
  | .applicationUpdate => (ofJson? j).map .applicationUpdate
  | .sucNodeId => (ofJson? j).map .sucNodeId
  | .nodeInformationRequested => (ofJson? j).map .nodeInformationRequested
  | .sendNopAccepted => (ofJson? j).map .sendNopAccepted
  | .sendNopComplete => (ofJson? j).map .sendNopComplete

end Command

instance : JsonForm Command where
  toJson c := .tagged c.kind.name c.valueJson
  ofJson?
    | .object [(some name, value)] => do Command.ofValueJson? (← CommandKind.ofName? name) value
    | _ => none

end ZWaveHost
