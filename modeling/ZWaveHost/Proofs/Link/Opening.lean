/-
  ZWaveHost.Proofs.Link.Opening — links that are opened and closed.

  A link is opened in two steps: its port is opened, and a NAK is sent.  The
  second may fail after the first has succeeded, and nothing closes the port
  then.  A link is closed in two steps as well, and if its port cannot be
  closed, the second is left out: the frame that is being received stays, and
  holds the line.

  Main facts: what may come of opening a link (`openPort_cases`), and when a
  link that has been closed is idle (`Balanced.closePort_idle_iff`).
-/
import ZWaveHost.Proofs.Port.Openness

namespace ZWaveHost

namespace Link

variable {π : Type} [Port π]

/-! ## §1. Opening -/

/-- What may come of opening a link. -/
inductive OpensTo (l : Link π) (timeout : Nat) : Except HostError Bool × Link π → Prop
  /-- The port does not open, and its answer is passed on. -/
  | unopened (hopened : (Port.openWithin timeout l.port).1 ≠ .ok true) :
    OpensTo l timeout ((Port.openWithin timeout l.port).1,
      { l with port := (Port.openWithin timeout l.port).2 })
  /-- The port opens, and the NAK is sent. -/
  | announced {link : Link π} (hopened : (Port.openWithin timeout l.port).1 = .ok true)
    (hsent : ({ l with port := (Port.openWithin timeout l.port).2 } : Link π).send .nak
      = (.ok (), link)) : OpensTo l timeout (.ok true, link)
  /-- The port opens, and the NAK cannot be sent. -/
  | unannounced {error : HostError} {link : Link π}
    (hopened : (Port.openWithin timeout l.port).1 = .ok true)
    (hsent : ({ l with port := (Port.openWithin timeout l.port).2 } : Link π).send .nak
      = (.error error, link)) : OpensTo l timeout (.error error, link)

theorem openPort_cases (l : Link π) (timeout : Nat) : OpensTo l timeout (l.openPort timeout) := by
  unfold openPort
  rcases hopened : Port.openWithin timeout l.port with ⟨result, port⟩
  have hport : (Port.openWithin timeout l.port).2 = port := congrArg Prod.snd hopened
  have hresult : (Port.openWithin timeout l.port).1 = result := congrArg Prod.fst hopened
  match result with
  | .error error =>
    have hno : (Port.openWithin timeout l.port).1 ≠ .ok true := by rw [hresult]; nofun
    have hcase := OpensTo.unopened hno
    rw [hopened] at hcase
    exact hcase
  | .ok false =>
    have hno : (Port.openWithin timeout l.port).1 ≠ .ok true := by rw [hresult]; nofun
    have hcase := OpensTo.unopened hno
    rw [hopened] at hcase
    exact hcase
  | .ok true =>
    dsimp only
    rcases hsent : ({ l with port := port } : Link π).send .nak with ⟨sent, link⟩
    cases sent with
    | ok _ => exact .announced hresult (by rw [hport]; exact hsent)
    | error error => exact .unannounced hresult (by rw [hport]; exact hsent)

/-- A port that opens leads to a NAK, whatever becomes of it. -/
theorem openPort_of_opened {l : Link π} {timeout : Nat}
    (hopened : (Port.openWithin timeout l.port).1 = .ok true) :
    (l.openPort timeout).2
      = (({ l with port := (Port.openWithin timeout l.port).2 } : Link π).send .nak).2 := by
  have hcases := l.openPort_cases timeout
  generalize l.openPort timeout = answered at hcases ⊢
  cases hcases with
  | unopened hno => exact absurd hopened hno
  | announced _ hsent => rw [hsent]
  | unannounced _ hsent => rw [hsent]

/-- A port that does not open leads to nothing. -/
theorem openPort_of_unopened {l : Link π} {timeout : Nat}
    (hno : (Port.openWithin timeout l.port).1 ≠ .ok true) :
    (l.openPort timeout).2 = { l with port := (Port.openWithin timeout l.port).2 } := by
  have hcases := l.openPort_cases timeout
  generalize l.openPort timeout = answered at hcases ⊢
  cases hcases with
  | unopened _ => rfl
  | announced hopened _ => exact absurd hopened hno
  | unannounced hopened _ => exact absurd hopened hno

/-- Opening counts nothing as received. -/
theorem openPort_received (l : Link π) (timeout : Nat) :
    (l.openPort timeout).2.received = l.received := by
  by_cases hopened : (Port.openWithin timeout l.port).1 = .ok true
  · rw [openPort_of_opened hopened, send_received]
  · rw [openPort_of_unopened hopened]

/-- Opening leaves the frame that is being received alone, or drops it. -/
theorem openPort_decoder (l : Link π) (timeout : Nat) :
    (l.openPort timeout).2.decoder = l.decoder ∨ (l.openPort timeout).2.decoder = .idle := by
  by_cases hopened : (Port.openWithin timeout l.port).1 = .ok true
  · rw [openPort_of_opened hopened]
    exact send_decoder { l with port := (Port.openWithin timeout l.port).2 } .nak
  · rw [openPort_of_unopened hopened]
    exact .inl rfl

/-- A link that does not open counts nothing as sent. -/
theorem openPort_sent {l : Link π} {timeout : Nat} (hfails : (l.openPort timeout).1 ≠ .ok true) :
    (l.openPort timeout).2.sent = l.sent := by
  have hcases := l.openPort_cases timeout
  generalize l.openPort timeout = answered at hcases hfails ⊢
  cases hcases with
  | unopened _ => rfl
  | announced _ _ => exact absurd rfl hfails
  | unannounced _ hsent =>
    have hcounted := send_sent { l with port := (Port.openWithin timeout l.port).2 } .nak
    rw [hsent] at hcounted
    exact hcounted

/-- A link that is opened has its port open, and one that is not opened has
    its port as it was. -/
theorem openPort_isOpen (o : Openness π) (l : Link π) (timeout : Nat) :
    o.isOpen (l.openPort timeout).2.port = true
      ↔ o.isOpen l.port = true ∨ (Port.openWithin timeout l.port).1 = .ok true := by
  by_cases hopened : (Port.openWithin timeout l.port).1 = .ok true
  · -- the NAK has no say in it
    rw [openPort_of_opened hopened, send_isOpen]
    exact iff_of_true (o.opened timeout l.port hopened) (.inr hopened)
  · rw [openPort_of_unopened hopened]
    dsimp only
    rw [o.unopened timeout l.port hopened]
    exact ⟨.inl, fun h => h.resolve_right hopened⟩

/-- A sender that gives up says so as a fault of the transport. -/
theorem send_error {l l' : Link π} {frame : Frame} {error : HostError}
    (hsent : l.send frame = (.error error, l')) : ∃ text, error = .transport text := by
  unfold send at hsent
  split at hsent
  · cases hsent
    exact ⟨_, rfl⟩
  · split at hsent
    · cases hsent
    · cases hsent
      exact ⟨_, rfl⟩

/-- A port that has been opened finds the link idle, whatever became of the NAK. -/
theorem Balanced.openPort_idle {l : Link π} (hl : l.Balanced) {timeout : Nat}
    (hopened : (Port.openWithin timeout l.port).1 = .ok true) :
    (l.openPort timeout).2.Idle := by
  rw [openPort_of_opened hopened]
  exact (hl.withPort (Port.openWithin timeout l.port).2).send_idle .nak

/-- **A port that opens and takes what is written** makes a link open if no
    frame is being received; else the line is busy. -/
theorem Balanced.openPort_eq {l : Link π} (hl : l.Balanced) {timeout : Nat}
    (hopened : (Port.openWithin timeout l.port).1 = .ok true)
    (hwrites : (writeOut Frame.nak.toBytes (Port.openWithin timeout l.port).2).1 = .ok ()) :
    (l.openPort timeout).1 = if l.decoder.inFrame
      then .error (.transport ("line busy for " ++ Text.duration l.lockTimeout))
      else .ok true := by
  let opened : Link π := { l with port := (Port.openWithin timeout l.port).2 }
  have hcases := l.openPort_cases timeout
  generalize l.openPort timeout = answered at hcases ⊢
  cases hframe : l.decoder.inFrame with
  | false =>
    have hidle := hl.idle_iff.mpr hframe
    have hok : (opened.send .nak).1 = .ok () := send_eq_ok_iff.mpr ⟨hidle.line, hwrites⟩
    cases hcases with
    | unopened hno => exact absurd hopened hno
    | announced _ hsent => rfl
    | unannounced _ hsent =>
      have hfailed := congrArg Prod.fst hsent
      cases hfailed.symm.trans hok
  | true =>
    have hbusy := send_of_held (l := opened) (hl.held hframe) .nak
    cases hcases with
    | unopened hno => exact absurd hopened hno
    | announced _ hsent => cases hsent.symm.trans hbusy
    | unannounced _ hsent =>
      cases hsent.symm.trans hbusy
      rfl

/-! ## §2. Closing -/

/-- What the port answers when it is closed is passed on. -/
theorem closePort_result (l : Link π) : l.closePort.1 = (Port.close l.port).1 := by
  unfold closePort
  split
  · next error port hclosed => rw [hclosed]
  · next wasOpen port hclosed => rw [hclosed]

/-- **A port that cannot be closed** leaves its link as it is. -/
theorem closePort_of_error {l : Link π} {error : HostError}
    (hclosed : (Port.close l.port).1 = .error error) :
    l.closePort.2 = { l with port := (Port.close l.port).2 } := by
  unfold closePort
  rcases hresult : Port.close l.port with ⟨result, port⟩
  rw [hresult] at hclosed
  obtain rfl : result = .error error := hclosed
  rfl

/-- A port that can be closed leaves its link between frames. -/
theorem closePort_of_ok {l : Link π} {wasOpen : Bool}
    (hclosed : (Port.close l.port).1 = .ok wasOpen) :
    l.closePort.2 = ({ l with port := (Port.close l.port).2 } : Link π).resynchronize := by
  unfold closePort
  rcases hresult : Port.close l.port with ⟨result, port⟩
  rw [hresult] at hclosed
  obtain rfl : result = .ok wasOpen := hclosed
  rfl

/-- A half frame stays on a link whose port cannot be closed. -/
theorem closePort_stuck {l : Link π}
    (hnot : ¬ ((Port.close l.port).1.isOk = true ∨ l.decoder.inFrame = false)) :
    l.closePort.2.decoder = l.decoder ∧ l.decoder.inFrame = true := by
  obtain ⟨hfailed, hframe⟩ := not_or.mp hnot
  refine ⟨?_, Bool.not_eq_false _ ▸ hframe⟩
  cases hclosed : (Port.close l.port).1 with
  | ok wasOpen => exact absurd (congrArg Except.isOk hclosed) hfailed
  | error error => rw [closePort_of_error hclosed]

/-- Closing counts nothing as received. -/
theorem closePort_received (l : Link π) : l.closePort.2.received = l.received := by
  cases hclosed : (Port.close l.port).1 with
  | error error => rw [closePort_of_error hclosed]
  | ok wasOpen => rw [closePort_of_ok hclosed, resynchronize_received]

/-- Closing leaves the frame that is being received alone, or drops it. -/
theorem closePort_decoder (l : Link π) :
    l.closePort.2.decoder = l.decoder ∨ l.closePort.2.decoder = .idle := by
  cases hclosed : (Port.close l.port).1 with
  | error error =>
    rw [closePort_of_error hclosed]
    exact .inl rfl
  | ok wasOpen =>
    rw [closePort_of_ok hclosed]
    exact .inr (resynchronize_decoder _)

/-- **A link that has been closed is idle** exactly if its port could be closed,
    or no frame was being received anyway. -/
theorem Balanced.closePort_idle_iff {l : Link π} (hl : l.Balanced) :
    l.closePort.2.Idle ↔ (Port.close l.port).1.isOk = true ∨ l.decoder.inFrame = false := by
  cases hclosed : (Port.close l.port).1 with
  | error error =>
    rw [closePort_of_error hclosed, (hl.withPort _).idle_iff]
    exact ⟨.inr, fun h => h.resolve_left nofun⟩
  | ok wasOpen =>
    rw [closePort_of_ok hclosed]
    exact iff_of_true (hl.withPort _).resynchronize_idle (.inl rfl)

theorem closePort_lockTimeout (l : Link π) : l.closePort.2.lockTimeout = l.lockTimeout := by
  unfold closePort resynchronize
  split
  · rfl
  · dsimp only
    split <;> rfl

end Link

end ZWaveHost
