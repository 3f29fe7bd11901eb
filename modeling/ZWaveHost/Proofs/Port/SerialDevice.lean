/-
  ZWaveHost.Proofs.Port.SerialDevice — what a serial port makes of its system.

  Whatever the system of a machine answers, a serial port has a device or
  has none.  It asks for one only when it is opened, gives back one that
  cannot be made ready, and without one it takes nothing.

  Main facts: a serial port is open exactly while it has a device
  (`SerialPort.openness`), so what is said of open and closed ports holds of
  it; and however it is used, it has as many of the devices in use as it
  should: one if it is open, and none if not (`devices_in_use`).
-/
import ZWaveHost.Port.DeviceName
import ZWaveHost.Proofs.Port.Openness

namespace ZWaveHost

variable {σ : Type} [SerialSystem σ]

/-! ## §1. Open ports -/

namespace SerialPort

/-- **A port is opened if it has a device afterwards**, and only then; whatever
    goes wrong, it has none. -/
theorem openWithin_eq_ok_true_iff (timeout : Nat) (p : SerialPort σ) :
    (Port.openWithin timeout p).1 = .ok true
      ↔ (Port.openWithin timeout p).2.handle.isSome = true := by
  show (openWithin timeout p).1 = .ok true ↔ (openWithin timeout p).2.handle.isSome = true
  unfold openWithin
  split
  · next handle hhandle => simp [hhandle]
  · next hnone =>
    split
    · simp [hnone]
    · split
      · simp [hnone]
      · simp

/-- A port that has a device keeps it. -/
theorem openWithin_of_isSome {timeout : Nat} {p : SerialPort σ} (hopen : p.handle.isSome = true) :
    Port.openWithin timeout p = (.ok true, p) := by
  obtain ⟨handle, hhandle⟩ := Option.isSome_iff_exists.mp hopen
  show openWithin timeout p = _
  unfold openWithin
  rw [hhandle]

/-- **A port without a device takes nothing**, and there is nothing to close. -/
theorem takes_nothing_of_none {p : SerialPort σ} (hnone : p.handle = none) :
    (∀ bytes, Port.write bytes p = (.error .notConnected, p))
      ∧ Port.flush p = (.error .notConnected, p) ∧ Port.clearInput p = (.error .notConnected, p)
      ∧ Port.close p = (.ok false, p) := by
  have hunused (use : SerialSystem.Handle σ → σ → Except String Unit × σ) :
      p.useDevice use = (.error .notConnected, p) := by
    unfold useDevice
    rw [hnone]
  have hclose : p.close = (false, p) := by
    unfold close
    rw [hnone]
  refine ⟨fun bytes => hunused _, hunused _, hunused _, ?_⟩
  show ((.ok p.close.1 : Except HostError Bool), p.close.2) = _
  rw [hclose]

/-- Whatever is done with a device, the port still has it. -/
theorem useDevice_handle (p : SerialPort σ)
    (use : SerialSystem.Handle σ → σ → Except String Unit × σ) :
    (p.useDevice use).2.handle = p.handle := by
  unfold useDevice
  split <;> rfl

/-- A serial port is open while it has a device. -/
def openness : Openness (SerialPort σ) where
  isOpen p := p.handle.isSome
  opened timeout p hok := (p.openWithin_eq_ok_true_iff timeout).mp hok
  unopened timeout p hno := by
    have hnone : (Port.openWithin timeout p).2.handle.isSome = false :=
      Bool.eq_false_iff.mpr fun h => hno ((p.openWithin_eq_ok_true_iff timeout).mpr h)
    rw [hnone]
    -- a port that had a device would have opened
    refine (Bool.eq_false_iff.mpr fun hopen => hno ?_).symm
    rw [openWithin_of_isSome hopen]
  write bytes p := congrArg Option.isSome (p.useDevice_handle _)
  flush p := congrArg Option.isSome (p.useDevice_handle _)
  clearInput p := congrArg Option.isSome (p.useDevice_handle _)

/-- So nothing is sent over it: whoever finds the line free learns that the port
    is not connected. -/
theorem send_of_none {l : Link (SerialPort σ)} (hnone : l.port.handle = none)
    (hfree : l.line = .free) (frame : Frame) :
    l.send frame = (.error (.transport (IoFault.message .notConnected)), l) := by
  obtain ⟨hwrite, _, hclear, _⟩ := takes_nothing_of_none hnone
  have hwritten : Link.writeOut frame.toBytes l.port = (.error .notConnected, l.port) := by
    unfold Link.writeOut
    rw [hclear]
    dsimp only
    rw [hwrite]
  unfold Link.send
  rw [hfree]
  dsimp only [Line.acquire?]
  rw [hwritten]
  show (_, ({ l with line := .free } : Link (SerialPort σ))) = _
  rw [← hfree]

end SerialPort

/-! ## §2. Devices in use -/

/-- A way to read off a machine how many of its devices are in use, for the
    systems that open and close one device at a time. -/
structure DeviceCount (σ : Type) [SerialSystem σ] where
  inUse : σ → Nat
  opened : ∀ {name baudRate timeout machine handle machine'},
    SerialSystem.openDevice name baudRate timeout machine = (.ok handle, machine') →
    inUse machine' = inUse machine + 1
  /-- A device that is refused is in use no more than before. -/
  refused : ∀ {name baudRate timeout machine fault machine'},
    SerialSystem.openDevice name baudRate timeout machine = (.error fault, machine') →
    inUse machine' = inUse machine
  closed : ∀ handle machine,
    inUse (SerialSystem.closeDevice handle machine) = inUse machine - 1
  clearAll : ∀ handle machine,
    inUse (SerialSystem.clearAll handle machine).2 = inUse machine
  openReader : ∀ handle period machine,
    inUse (SerialSystem.openReader handle period machine).2 = inUse machine
  write : ∀ handle bytes machine,
    inUse (SerialSystem.write handle bytes machine).2 = inUse machine
  flush : ∀ handle machine, inUse (SerialSystem.flush handle machine).2 = inUse machine
  clearInput : ∀ handle machine,
    inUse (SerialSystem.clearInput handle machine).2 = inUse machine

/-- One use of a port. -/
inductive PortUse where
  | openWithin (timeout : Nat)
  | close
  | write (bytes : List UInt8)
  | flush
  | clearInput

/-- A port after it has been used. -/
def PortUse.after {π : Type} [Port π] (port : π) : PortUse → π
  | .openWithin timeout => (Port.openWithin timeout port).2
  | .close => (Port.close port).2
  | .write bytes => (Port.write bytes port).2
  | .flush => (Port.flush port).2
  | .clearInput => (Port.clearInput port).2

namespace SerialPort

/-- How many devices a port has: one or none. -/
def devices (p : SerialPort σ) : Nat := if p.handle.isSome then 1 else 0

variable (count : DeviceCount σ)

/-- A device that is opened is in use, and one that is refused is not. -/
theorem openDevice_inUse (name : String) (baudRate : UInt32) (timeout : Nat) (machine : σ) :
    (∃ handle machine', openDevice name baudRate timeout machine = (.ok handle, machine')
        ∧ count.inUse machine' = count.inUse machine + 1)
      ∨ ∃ fault machine', openDevice name baudRate timeout machine = (.error fault, machine')
        ∧ count.inUse machine' = count.inUse machine := by
  unfold openDevice
  rcases hopen : SerialSystem.openDevice name baudRate timeout machine
    with ⟨(_ | text) | handle, machine'⟩
  · exact .inr ⟨_, _, rfl, count.refused hopen⟩
  · exact .inr ⟨_, _, rfl, count.refused hopen⟩
  · exact .inl ⟨_, _, rfl, count.opened hopen⟩

/-- A device that is made ready stays in use, and one that cannot be made ready
    is given back. -/
theorem prepare_inUse (handle : SerialSystem.Handle σ) (machine : σ) :
    (∃ machine', prepare handle machine = (.ok (), machine')
        ∧ count.inUse machine' = count.inUse machine)
      ∨ ∃ fault machine', prepare handle machine = (.error fault, machine')
        ∧ count.inUse machine' = count.inUse machine - 1 := by
  have hcleared := count.clearAll handle machine
  unfold prepare
  rcases hclear : SerialSystem.clearAll handle machine with ⟨_ | _, machine'⟩
  · right
    rw [hclear] at hcleared
    refine ⟨_, _, rfl, ?_⟩
    rw [count.closed, hcleared]
  · have hread := count.openReader handle readerTimeout machine'
    rw [hclear] at hcleared
    dsimp only
    rcases hreader : SerialSystem.openReader handle readerTimeout machine' with ⟨_ | _, machine''⟩
    · right
      rw [hreader] at hread
      refine ⟨_, _, rfl, ?_⟩
      rw [count.closed, hread, hcleared]
    · left
      rw [hreader] at hread
      exact ⟨_, rfl, hread.trans hcleared⟩

/-- The devices in use are those that were in use without the port, and its own. -/
def Settled (others : Nat) (p : SerialPort σ) : Prop :=
  count.inUse p.machine = others + p.devices

variable {count} {others : Nat} {p : SerialPort σ}

/-- **Opening a port** takes a device into use if the port gets one. -/
theorem Settled.openWithin (hp : p.Settled count others) (timeout : Nat) :
    (openWithin timeout p).2.Settled count others := by
  unfold Settled at hp
  unfold SerialPort.openWithin
  cases hhandle : p.handle with
  | some handle => exact hp
  | none =>
    have hnone : count.inUse p.machine = others := by
      unfold devices at hp
      rw [hhandle] at hp
      exact hp
    rcases openDevice_inUse count p.name p.baudRate timeout p.machine
      with ⟨handle, machine, hopen, hused⟩ | ⟨fault, machine, hopen, hused⟩
    · rw [hopen]
      dsimp only
      rcases prepare_inUse count handle machine
        with ⟨machine', hready, hstays⟩ | ⟨fault, machine', hready, hback⟩
      · rw [hready]
        exact hstays.trans (hused.trans (congrArg (· + 1) hnone))
      · -- the device has been given back
        rw [hready]
        show count.inUse machine' = others + 0
        omega
    · rw [hopen]
      exact hused.trans hnone

theorem Settled.close (hp : p.Settled count others) : p.close.2.Settled count others := by
  unfold Settled at hp
  unfold SerialPort.close
  cases hhandle : p.handle with
  | none => exact hp
  | some handle =>
    unfold devices at hp
    rw [hhandle] at hp
    show count.inUse (SerialSystem.closeDevice handle p.machine) = others + 0
    rw [count.closed, hp]
    rfl

/-- What is done with the device of a port leaves it in use. -/
theorem Settled.useDevice (hp : p.Settled count others)
    (use : SerialSystem.Handle σ → σ → Except String Unit × σ)
    (hkeeps : ∀ handle machine, count.inUse (use handle machine).2 = count.inUse machine) :
    (p.useDevice use).2.Settled count others := by
  unfold Settled at hp
  unfold SerialPort.useDevice
  cases hhandle : p.handle with
  | none => exact hp
  | some handle =>
    unfold devices at hp
    rw [hhandle] at hp
    exact (hkeeps handle p.machine).trans hp

/-- **However a port is used, nothing of it gets lost**: of the devices in use,
    one is its own if it is open, and none if it is not. -/
theorem devices_in_use (name : String) (baudRate : UInt32) (machine : σ) (uses : List PortUse) :
    let p := uses.foldl PortUse.after (SerialPort.closed name baudRate machine)
    count.inUse p.machine = count.inUse machine + if p.handle.isSome then 1 else 0 := by
  intro p
  have hclosed : (SerialPort.closed name baudRate machine).Settled count (count.inUse machine) :=
    rfl
  show (uses.foldl PortUse.after (SerialPort.closed name baudRate machine)).Settled count _
  -- by induction on the uses, whatever the port has come to
  generalize SerialPort.closed name baudRate machine = first at hclosed
  induction uses generalizing first with
  | nil => exact hclosed
  | cons use rest ih =>
    refine ih _ ?_
    cases use with
    | openWithin timeout => exact hclosed.openWithin timeout
    | close => exact hclosed.close
    | write bytes => exact hclosed.useDevice _ fun handle => count.write handle bytes
    | flush => exact hclosed.useDevice _ count.flush
    | clearInput => exact hclosed.useDevice _ count.clearInput

end SerialPort

/-- A tree of files knows how many of its devices are in use. -/
def FileTree.deviceCount : DeviceCount FileTree where
  inUse := inUse
  opened := by
    intro name baudRate timeout tree handle tree' hopened
    have hopened : tree.takeDevice name = (.ok handle, tree') := hopened
    unfold takeDevice at hopened
    split at hopened
    · cases hopened
      rfl
    · cases hopened
  refused := by
    intro name baudRate timeout tree fault tree' hrefused
    have hrefused : tree.takeDevice name = (.error fault, tree') := hrefused
    unfold takeDevice at hrefused
    split at hrefused
    · cases hrefused
    · cases hrefused
      rfl
  closed _ _ := rfl
  clearAll _ _ := rfl
  openReader _ _ _ := rfl
  write _ _ _ := rfl
  flush _ _ := rfl
  clearInput _ _ := rfl

/-- A tree with one modem, and a file beside it. -/
def FileTree.oneModem : FileTree where
  standing? path :=
    if path = ["dev"] then some .directory
    else if path = ["dev", "ttyACM0"] then some .device
    else if path = ["dev", "null"] then some (.file .notTerminal)
    else none
  current := []
  inUse := 0

example :
    (Port.openWithin 0 (SerialPort.closed "/dev/ttyACM0" 115200 FileTree.oneModem)).1 = .ok true :=
  rfl

example : (Port.openWithin 0 (SerialPort.closed "/dev/null" 115200 FileTree.oneModem)).1 = .ok false :=
  rfl

end ZWaveHost
