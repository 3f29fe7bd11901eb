/-
  ZWaveHost.Command — the commands that the module sends.

  A command is one of eighteen kinds.  Each kind travels under one command
  id; an id that has a response and a callback carries two kinds.
-/
import ZWaveHost.Command.Module
import ZWaveHost.Command.Node
import ZWaveHost.Command.Transmission

namespace ZWaveHost

/-- The kinds of command that can be read. -/
inductive CommandKind where
  | initData
  | applicationCommand
  | controllerCapabilities
  | previousTimeouts
  | capabilities
  | apiStarted
  | sendDataAccepted
  | sendDataComplete
  | libraryVersion
  | networkIds
  | backgroundRssi
  | nodeProtocolInfo
  | setDefaultComplete
  | applicationUpdate
  | sucNodeId
  | nodeInformationRequested
  | sendNopAccepted
  | sendNopComplete
  deriving DecidableEq, Inhabited

/-- A command that was read. -/
inductive Command where
  | initData (value : InitData)
  | applicationCommand (value : ApplicationCommand)
  | controllerCapabilities (value : ControllerCapabilities)
  | previousTimeouts (value : PreviousTimeouts)
  | capabilities (value : Capabilities)
  | apiStarted (value : ApiStarted)
  | sendDataAccepted (value : SendDataAccepted)
  | sendDataComplete (value : SendDataComplete)
  | libraryVersion (value : LibraryVersion)
  | networkIds (value : NetworkIds)
  | backgroundRssi (value : BackgroundRssi)
  | nodeProtocolInfo (value : NodeProtocolInfo)
  | setDefaultComplete (value : SetDefaultComplete)
  | applicationUpdate (value : ApplicationUpdate)
  | sucNodeId (value : SucNodeId)
  | nodeInformationRequested (value : NodeInformationRequested)
  | sendNopAccepted (value : SendNopAccepted)
  | sendNopComplete (value : SendNopComplete)
  deriving DecidableEq

namespace CommandKind

/-- Every kind, in the order of the command ids. -/
def all : List CommandKind :=
  [.initData, .applicationCommand, .controllerCapabilities, .previousTimeouts, .capabilities,
   .apiStarted, .sendDataAccepted, .sendDataComplete, .libraryVersion, .networkIds,
   .backgroundRssi, .nodeProtocolInfo, .setDefaultComplete, .applicationUpdate, .sucNodeId,
   .nodeInformationRequested, .sendNopAccepted, .sendNopComplete]

/-- The command id that a kind travels under. -/
def commandId : CommandKind → UInt8
  | .initData => 0x02
  | .applicationCommand => 0x04
  | .controllerCapabilities => 0x05
  | .previousTimeouts => 0x06
  | .capabilities => 0x07
  | .apiStarted => 0x0A
  | .sendDataAccepted => 0x13
  | .sendDataComplete => 0x13
  | .libraryVersion => 0x15
  | .networkIds => 0x20
  | .backgroundRssi => 0x3B
  | .nodeProtocolInfo => 0x41
  | .setDefaultComplete => 0x42
  | .applicationUpdate => 0x49
  | .sucNodeId => 0x56
  | .nodeInformationRequested => 0x60
  | .sendNopAccepted => 0xE9
  | .sendNopComplete => 0xE9

/-- The name of a kind. -/
def name : CommandKind → String
  | .initData => "InitData"
  | .applicationCommand => "ApplicationCommand"
  | .controllerCapabilities => "ControllerCapabilities"
  | .previousTimeouts => "PreviousTimeouts"
  | .capabilities => "Capabilities"
  | .apiStarted => "ApiStarted"
  | .sendDataAccepted => "SendDataAccepted"
  | .sendDataComplete => "SendDataComplete"
  | .libraryVersion => "LibraryVersion"
  | .networkIds => "NetworkIds"
  | .backgroundRssi => "BackgroundRssi"
  | .nodeProtocolInfo => "NodeProtocolInfo"
  | .setDefaultComplete => "SetDefaultComplete"
  | .applicationUpdate => "ApplicationUpdate"
  | .sucNodeId => "SucNodeId"
  | .nodeInformationRequested => "NodeInformationRequested"
  | .sendNopAccepted => "SendNopAccepted"
  | .sendNopComplete => "SendNopComplete"

/-- The kind with a given name. -/
def ofName? (s : String) : Option CommandKind := all.find? (·.name == s)

end CommandKind

namespace Command

/-- The kind of a command. -/
def kind : Command → CommandKind
  | .initData _ => .initData
  | .applicationCommand _ => .applicationCommand
  | .controllerCapabilities _ => .controllerCapabilities
  | .previousTimeouts _ => .previousTimeouts
  | .capabilities _ => .capabilities
  | .apiStarted _ => .apiStarted
  | .sendDataAccepted _ => .sendDataAccepted
  | .sendDataComplete _ => .sendDataComplete
  | .libraryVersion _ => .libraryVersion
  | .networkIds _ => .networkIds
  | .backgroundRssi _ => .backgroundRssi
  | .nodeProtocolInfo _ => .nodeProtocolInfo
  | .setDefaultComplete _ => .setDefaultComplete
  | .applicationUpdate _ => .applicationUpdate
  | .sucNodeId _ => .sucNodeId
  | .nodeInformationRequested _ => .nodeInformationRequested
  | .sendNopAccepted _ => .sendNopAccepted
  | .sendNopComplete _ => .sendNopComplete

/-- The command id that a command travels under. -/
def commandId (c : Command) : UInt8 := c.kind.commandId

/-- The reading of a payload as a command of a given kind. -/
def decode : CommandKind → Decode Command
  | .initData => .initData <$> InitData.decode
  | .applicationCommand => .applicationCommand <$> ApplicationCommand.decode
  | .controllerCapabilities => .controllerCapabilities <$> ControllerCapabilities.decode
  | .previousTimeouts => .previousTimeouts <$> PreviousTimeouts.decode
  | .capabilities => .capabilities <$> Capabilities.decode
  | .apiStarted => .apiStarted <$> ApiStarted.decode
  | .sendDataAccepted => .sendDataAccepted <$> SendDataAccepted.decode
  | .sendDataComplete => .sendDataComplete <$> SendDataComplete.decode
  | .libraryVersion => .libraryVersion <$> LibraryVersion.decode
  | .networkIds => .networkIds <$> NetworkIds.decode
  | .backgroundRssi => .backgroundRssi <$> BackgroundRssi.decode
  | .nodeProtocolInfo => .nodeProtocolInfo <$> NodeProtocolInfo.decode
  | .setDefaultComplete => .setDefaultComplete <$> SetDefaultComplete.decode
  | .applicationUpdate => .applicationUpdate <$> ApplicationUpdate.decode
  | .sucNodeId => .sucNodeId <$> SucNodeId.decode
  | .nodeInformationRequested => .nodeInformationRequested <$> NodeInformationRequested.decode
  | .sendNopAccepted => .sendNopAccepted <$> SendNopAccepted.decode
  | .sendNopComplete => .sendNopComplete <$> SendNopComplete.decode

/-- A command, if it is of the kind asked for. -/
def ofKind? (kind : CommandKind) (c : Command) : Option Command :=
  if c.kind = kind then some c else none

end Command

end ZWaveHost
