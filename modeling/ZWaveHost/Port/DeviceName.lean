/-
  ZWaveHost.Port.DeviceName — where the name of a device leads.

  The name of a device is a path, looked up part by part.  The first part
  that leads nowhere decides: it is missing, or it is longer than any name
  can be, or it stands behind something that is no directory.  A name that
  is no path at all, and a path that is too long as a whole, are not looked
  up.

  Which files there are is a parameter (`FileTree`).  The devices of a tree
  have nobody at the other end: they take what is written to them.  The tree
  knows how many of them are in use.
-/
import ZWaveHost.Port.Serial

namespace ZWaveHost

/-- Why the device of a given name cannot be opened. -/
inductive OpenFault where
  /-- Nothing has that name. -/
  | missing
  /-- The name or a part of it is too long. -/
  | nameTooLong
  /-- The name goes on behind something that is no directory. -/
  | notDirectory
  /-- The name is that of a directory. -/
  | isDirectory
  /-- The name is that of something that is no terminal. -/
  | notTerminal
  /-- The name is that of a device with nothing behind it. -/
  | noDevice
  /-- The name holds a NUL character, which ends every path, or the device
      does not let itself be claimed. -/
  | invalid
  deriving DecidableEq

/-- The text of a fault. -/
def OpenFault.message : OpenFault → String
  | .missing => "No such file or directory"
  | .nameTooLong => "File name too long"
  | .notDirectory => "Not a directory"
  | .isDirectory => "Is a directory"
  | .notTerminal => "Not a typewriter"
  | .noDevice => "No such device or address"
  | .invalid => "Invalid argument"

/-! ## §1. Files -/

/-- What stands somewhere. -/
inductive Standing where
  | directory
  /-- A directory that the kernel makes up.  A long name is only missing there. -/
  | kernelDirectory
  /-- A serial device that can be opened. -/
  | device
  /-- Anything else, and the fault if it is to be opened as a port. -/
  | file (fault : OpenFault)
  deriving DecidableEq

/-- The files of a machine, by their paths from the root. -/
structure FileTree where
  standing? : List String → Option Standing
  /-- The path of the current directory. -/
  current : List String
  /-- How many devices are in use. -/
  inUse : Nat

namespace FileTree

/-- The most bytes in one part of a path. -/
def maxPartSize : Nat := 255

/-- The most bytes in a path. -/
def maxPathSize : Nat := 4095

/-! ## §2. Where a name leads -/

/-- The parts of a text between its slashes. -/
def parts : List Char → List (List Char)
  | [] => [[]]
  | c :: cs =>
    if c = '/' then [] :: parts cs
    else
      match parts cs with
      | [] => [[c]]
      | part :: rest => (c :: part) :: rest

/-- Looks up a name part by part, from a directory on.  An empty part and a dot
    stay in place, two dots go up, and the root is its own parent. -/
def lookUp (tree : FileTree) (place : List String) : List String → Except OpenFault Unit
  | [] => .error .isDirectory
  | part :: rest =>
    let next := place ++ [part]
    if part = "" ∨ part = "." then lookUp tree place rest
    else if part = ".." then lookUp tree place.dropLast rest
    else if tree.standing? place ≠ some .kernelDirectory ∧ maxPartSize < part.utf8ByteSize then
      .error .nameTooLong
    else
      match tree.standing? next with
      | none => .error .missing
      | some .device => if rest = [] then .ok () else .error .notDirectory
      | some (.file fault) => if rest = [] then .error fault else .error .notDirectory
      | some .directory => lookUp tree next rest
      | some .kernelDirectory => lookUp tree next rest

/-- Whether the device of a name can be opened, and else why not. -/
def openDevice (tree : FileTree) (name : String) : Except OpenFault Unit :=
  if name.toList.any (·.toNat = 0) then .error .invalid
  else if maxPathSize < name.utf8ByteSize then .error .nameTooLong
  else
    match name.toList with
    | [] => .error .missing
    | '/' :: rest => tree.lookUp [] ((parts rest).map String.ofList)
    | relative => tree.lookUp tree.current ((parts relative).map String.ofList)

/-- Takes the device of a name into use. -/
def takeDevice (tree : FileTree) (name : String) : Except DeviceFault Unit × FileTree :=
  match tree.openDevice name with
  | .ok () => (.ok (), { tree with inUse := tree.inUse + 1 })
  | .error fault => (.error (.other fault.message), tree)

instance : SerialSystem FileTree where
  Handle := Unit
  openDevice name _ _ tree := tree.takeDevice name
  clearAll _ tree := (.ok (), tree)
  openReader _ _ tree := (.ok (), tree)
  write _ _ tree := (.ok (), tree)
  flush _ tree := (.ok (), tree)
  clearInput _ tree := (.ok (), tree)
  closeDevice _ tree := { tree with inUse := tree.inUse - 1 }

end FileTree

end ZWaveHost
