/-
  ZWaveHost.Error — why the host could not do what it was asked.
-/
import ZWaveHost.Buffer
import ZWaveHost.Registry.Basic
import ZWaveHost.Sequence

namespace ZWaveHost

/-- Why a read or write on a port failed. -/
inductive IoFault where
  /-- The port is not open. -/
  | notConnected
  /-- The port's own words. -/
  | other (text : String)
  deriving DecidableEq

/-- The wording of a port's fault. -/
def IoFault.message : IoFault → String
  | .notConnected => "serial port is not open"
  | .other text => text

/-- Why settings are refused. -/
inductive ConfigFault where
  | noAttempts
  | noDispatchCapacity
  | noTimeout
  deriving DecidableEq

/-- The wording of a refusal. -/
def ConfigFault.message : ConfigFault → String
  | .noAttempts => "max_retries must allow at least one attempt"
  | .noDispatchCapacity => "dispatch_capacity must be positive"
  | .noTimeout => "timeout_ms must be positive"

/-- Why a file could not be read as text. -/
inductive FileFault where
  | notFound
  | notText
  deriving DecidableEq

/-- The wording of a file's fault. -/
def FileFault.message : FileFault → String
  | .notFound => "No such file or directory (os error 2)"
  | .notText => "stream did not contain valid UTF-8"

/-- Why the host could not do what it was asked. -/
inductive HostError where
  /-- The port failed to open or close. -/
  | serial (text : String)
  /-- A frame did not get onto the line. -/
  | transport (text : String)
  | notRunning
  | alreadyRunning
  | unregisteredCommand (id : UInt8)
  | unknownCommandId (id : UInt8)
  | portNotFound (name : String)
  | config (text : String)
  | frame (error : FrameError)
  | codec (error : CodecError)
  | sequence (error : SequenceError)
  | registry (error : RegistryError)
  /-- A text that is not the JSON form of what was asked for. -/
  | json
  | file (fault : FileFault)
  deriving DecidableEq

/-- The wording of an error; what is wrong with a JSON text is not said. -/
def HostError.message : HostError → String
  | .serial text => "Serial port error: " ++ text
  | .transport text => "Transport I/O error: " ++ text
  | .notRunning => "Adapter is not running"
  | .alreadyRunning => "Adapter is already running"
  | .unregisteredCommand id => "No command registered for id " ++ Text.hexByte id
  | .unknownCommandId id => "Received data frame for unknown command id " ++ Text.hexByte id
  | .portNotFound name => "Port not found: " ++ name
  | .config text => "Invalid configuration: " ++ text
  | .frame error => error.message
  | .codec error => error.message
  | .sequence error => error.message
  | .registry error => error.message
  | .json => "JSON error"
  | .file fault => "I/O error: " ++ fault.message

end ZWaveHost
