/-
  ZWaveHost.Port.Serial — the serial ports of a machine.

  Devices are opened, written to and flushed by the system of the machine.
  What it answers is its own affair, so it is a parameter; the port adds when
  it is asked, and what is made of its answers.  What comes in is handed on by
  a reader of its own, which is no part of the port.

  The ports of a machine are those that the system reports and the device
  files of the known families, each name once.  They are listed in an order of
  their own: modems before adapters, each by the number in the name.
-/
import ZWaveHost.Port.Basic
import ZWaveHost.Text.Utf8

namespace ZWaveHost

/-! ## §1. Devices -/

/-- Why a device could not be opened. -/
inductive DeviceFault where
  /-- There is no device of that name. -/
  | noDevice
  /-- The system's own words. -/
  | other (text : String)
  deriving DecidableEq

/-- What a system does with serial devices; `σ` is the state of a machine, and
    whatever fails does so in the system's own words. -/
class SerialSystem (σ : Type) where
  /-- What an open device is known by. -/
  Handle : Type
  /-- Opens the device of a name, at a speed, for reads and writes that may
      take so many milliseconds: eight data bits, no parity, one stop bit and
      no flow control. -/
  openDevice : String → UInt32 → Nat → σ → Except DeviceFault Handle × σ
  /-- Drops what has come in and what has not gone out. -/
  clearAll : Handle → σ → Except String Unit × σ
  /-- Lets a reader take in what comes, looking up every so many milliseconds. -/
  openReader : Handle → Nat → σ → Except String Unit × σ
  write : Handle → List UInt8 → σ → Except String Unit × σ
  flush : Handle → σ → Except String Unit × σ
  clearInput : Handle → σ → Except String Unit × σ
  closeDevice : Handle → σ → σ

/-- The serial port of a name, and the machine that it belongs to. -/
structure SerialPort (σ : Type) [SerialSystem σ] where
  name : String
  baudRate : UInt32
  machine : σ
  /-- The device, while the port is open. -/
  handle : Option (SerialSystem.Handle σ)

/-- The speed of a Z-Wave module. -/
def defaultBaudRate : UInt32 := 115200

namespace SerialPort

section

variable {σ : Type} [SerialSystem σ]

/-- How often a reader looks up, in milliseconds. -/
def readerTimeout : Nat := 100

/-- A port that has not been opened. -/
def closed (name : String) (baudRate : UInt32) (machine : σ) : SerialPort σ :=
  ⟨name, baudRate, machine, none⟩

/-- Opens a device. -/
def openDevice (name : String) (baudRate : UInt32) (timeout : Nat) (machine : σ) :
    Except HostError (SerialSystem.Handle σ) × σ :=
  match SerialSystem.openDevice name baudRate timeout machine with
  | (.ok handle, machine) => (.ok handle, machine)
  | (.error .noDevice, machine) => (.error (.portNotFound name), machine)
  | (.error (.other text), machine) => (.error (.serial text), machine)

/-- Makes a device ready: what is in it is dropped, and a reader begins.  A
    device that does not take that is given back. -/
def prepare (handle : SerialSystem.Handle σ) (machine : σ) : Except HostError Unit × σ :=
  match SerialSystem.clearAll handle machine with
  | (.error text, machine) => (.error (.serial text), SerialSystem.closeDevice handle machine)
  | (.ok (), machine) =>
    match SerialSystem.openReader handle readerTimeout machine with
    | (.error text, machine) => (.error (.serial text), SerialSystem.closeDevice handle machine)
    | (.ok (), machine) => (.ok (), machine)

/-- Opens the port.  One that is open stays so; a device that cannot be opened
    is refused, and one that cannot be made ready is a fault. -/
def openWithin (timeout : Nat) (p : SerialPort σ) : Except HostError Bool × SerialPort σ :=
  match p.handle with
  | some _ => (.ok true, p)
  | none =>
    match openDevice p.name p.baudRate timeout p.machine with
    | (.error _, machine) => (.ok false, { p with machine := machine })
    | (.ok handle, machine) =>
      match prepare handle machine with
      | (.error fault, machine) => (.error fault, { p with machine := machine })
      | (.ok (), machine) => (.ok true, { p with machine := machine, handle := some handle })

/-- Closes the port; says whether it was open. -/
def close (p : SerialPort σ) : Bool × SerialPort σ :=
  match p.handle with
  | some handle =>
    (true, { p with machine := SerialSystem.closeDevice handle p.machine, handle := none })
  | none => (false, p)

/-- Does something with the open device; a closed port takes nothing. -/
def useDevice (p : SerialPort σ)
    (use : SerialSystem.Handle σ → σ → Except String Unit × σ) :
    Except IoFault Unit × SerialPort σ :=
  match p.handle with
  | none => (.error .notConnected, p)
  | some handle =>
    let (result, machine) := use handle p.machine
    (result.mapError .other, { p with machine := machine })

instance : Port (SerialPort σ) where
  openWithin := openWithin
  close p := (.ok p.close.1, p.close.2)
  write bytes p := p.useDevice fun handle => SerialSystem.write handle bytes
  flush p := p.useDevice SerialSystem.flush
  clearInput p := p.useDevice SerialSystem.clearInput

end

/-! ## §2. The order of the devices -/

/-- A text without its plus sign, if it begins with one. -/
def unsigned : List Char → List Char
  | '+' :: rest => rest
  | text => text

/-- The number that a run of decimal digits is, if it is below 2^64. -/
def runNumber? (digits : List Char) : Option Nat :=
  if digits.isEmpty || !digits.all Char.isDigit then none
  else
    let value := digits.foldl (fun n d => 10 * n + (d.toNat - '0'.toNat)) 0
    if value < UInt64.size then some value else none

/-- The number that a text is: decimal digits, perhaps after a plus sign. -/
def number? (text : List Char) : Option Nat := runNumber? (unsigned text)

/-- The part of a name after its last slash. -/
def baseName (name : List Char) : List Char :=
  (name.reverse.takeWhile (· ≠ '/')).reverse

/-- Where a device stands: rank of its family, number, name. -/
structure SortKey where
  rank : Nat
  number : Nat
  name : String
  deriving DecidableEq

/-- What follows a given beginning of a text. -/
def afterStart? : List Char → List Char → Option (List Char)
  | [], cs => some cs
  | s :: start, c :: cs => if s = c then afterStart? start cs else none
  | _ :: _, [] => none

/-- The families of devices, the first first. -/
def families : List String := ["ttyACM", "ttyUSB"]

/-- A device's place.  A name without a number stands after all numbers, and
    a device of no family after all families. -/
def sortKey (name : String) : SortKey :=
  let base := baseName name.toList
  match families.zipIdx.findSome? fun (family, rank) =>
      (afterStart? family.toList base).map (rank, ·) with
  | some (rank, rest) => ⟨rank, (number? rest).getD (UInt64.size - 1), String.ofList base⟩
  | none => ⟨families.length, 0, String.ofList base⟩

/-- Compares the ranks, then the numbers, then the names by code points. -/
def SortKey.compare (a b : SortKey) : Ordering :=
  ((Ord.compare a.rank b.rank).then (Ord.compare a.number b.number)).then
    (Ord.compare a.name b.name)

/-! ## §3. The ports of a machine -/

/-- What identifies a USB device. -/
structure UsbIds where
  vendorId : UInt16
  productId : UInt16
  product : Option String
  deriving DecidableEq

/-- A port as the system reports it; `usb` is there if it is a USB port. -/
structure PortReport where
  name : String
  usb : Option UsbIds
  deriving DecidableEq

/-- What is known of a port. -/
structure PortInfo where
  name : String
  vendorId : Option UInt16
  productId : Option UInt16
  product : Option String
  deriving DecidableEq

/-- A port of which only the name is known. -/
def PortInfo.bare (name : String) : PortInfo := ⟨name, none, none, none⟩

/-- What a report tells of a port. -/
def PortInfo.ofReport (report : PortReport) : PortInfo :=
  match report.usb with
  | some usb => ⟨report.name, some usb.vendorId, some usb.productId, usb.product⟩
  | none => .bare report.name

/-- Where the devices are. -/
def deviceDirectory : String := "/dev/"

/-- Whether a file in the device directory is one of a known family. -/
def hasFamily (fileName : String) : Bool :=
  families.any fun family => (afterStart? family.toList fileName.toList).isSome

/-- The names of files that are texts; others are passed over. -/
def textNames (directory : List (List UInt8)) : List String :=
  directory.filterMap Text.decode?

/-- Whatever is offered as a port: first what the system reports, if it reports
    anything, and then the device files, if their directory can be read. -/
def offered (reports : Option (List PortReport)) (directory : Option (List (List UInt8))) :
    List PortInfo :=
  (reports.getD []).map .ofReport
    ++ ((textNames (directory.getD [])).filter hasFamily).map fun fileName =>
      .bare (deviceDirectory ++ fileName)

/-- A port takes its place unless one of its name is there. -/
def hold (held : List PortInfo) (port : PortInfo) : List PortInfo :=
  if held.any (·.name = port.name) then held else held ++ [port]

/-- The ports that are there, each name once, with what was offered first. -/
def gather (reports : Option (List PortReport)) (directory : Option (List (List UInt8))) :
    List PortInfo :=
  (offered reports directory).foldl hold []

/-- Ports in the order of their names; those with equal keys stay as they are. -/
def inOrder (ports : List PortInfo) : List PortInfo :=
  ports.mergeSort fun a b => ((sortKey a.name).compare (sortKey b.name)).isLE

/-- The ports of a machine, in their order. -/
def ports (reports : Option (List PortReport)) (directory : Option (List (List UInt8))) :
    List PortInfo :=
  inOrder (gather reports directory)

/-- The ports of the device files with the given names, where nothing is reported. -/
def list (fileNames : List String) : List String :=
  (ports none (some (fileNames.map fun name => name.toUTF8.data.toList))).map (·.name)

end SerialPort

end ZWaveHost
