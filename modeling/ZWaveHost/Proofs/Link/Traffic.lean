/-
  ZWaveHost.Proofs.Link.Traffic — a link that several parties use at once.

  A reader takes in bytes, any number of writers send frames, and a closer
  closes the port; what the reader sends in answer, it sends as a writer.
  Nothing comes between the parts of a step, but anything may come between two
  steps of a party (`Traffic.step?`).  The decoder and the line change in
  different steps, and whoever drops a frame frees a line that somebody else
  has taken.

  Main facts: a party that is left alone does what the link's own operation
  does (`run_byteSteps`, `run_sendSteps`, `run_closeSteps`).  As long as no
  frame is dropped before the reader has the line for it, every step leaves
  the line with one user at most (`Orderly.step`); a frame that is dropped
  earlier leaves the line held for nobody (`Orderly.stranded`).

  Main statement: who holds the line, who frees it, and how a held line gets
  free again (`line_has_one_user`).
-/
import Mathlib.Logic.Function.Basic
import ZWaveHost.Port.Scripted
import ZWaveHost.Proofs.Link.Reception

namespace ZWaveHost

/-! ## §1. Parties -/

theorem Line.acquire?_eq_some_iff {line taken : Line} :
    line.acquire? = some taken ↔ line = .free ∧ taken = .held := by
  cases line <;> cases taken <;> decide

theorem Line.acquire?_eq_none_iff {line : Line} : line.acquire? = none ↔ line = .held := by
  cases line <;> decide

/-- A party to the traffic on a link. -/
inductive Party where
  | reader
  | writer (w : Nat)
  | closer
  deriving DecidableEq

/-- How far the reader is with a byte. -/
inductive ReaderAt where
  | between
  /-- A data frame has begun, and the line is to be taken for it. -/
  | entering
  /-- A data frame is over, and the line is to be given back. -/
  | leaving
  deriving DecidableEq

/-- Where a byte gets the reader. -/
def ReaderAt.after (before after : Decoder) : ReaderAt :=
  if !before.inFrame && after.inFrame then .entering
  else if before.inFrame && !after.inFrame then .leaving
  else .between

/-- What the place of the reader says of the frame that is being received, and
    of the line. -/
def ReaderAt.Fits : ReaderAt → (inFrame readerHolds : Bool) → Prop
  | .between, inFrame, readerHolds => readerHolds = inFrame
  | .entering, inFrame, readerHolds => inFrame = true ∧ readerHolds = false
  | .leaving, inFrame, readerHolds => inFrame = false ∧ readerHolds = true

/-- A byte that comes between frames, or in a frame that has the line. -/
theorem ReaderAt.fits_after (before after : Decoder) :
    (ReaderAt.after before after).Fits after.inFrame before.inFrame := by
  unfold ReaderAt.after
  cases before.inFrame <;> cases after.inFrame <;> first | rfl | exact ⟨rfl, rfl⟩

/-- How far a writer is with a frame. -/
inductive WriterAt where
  /-- It has nothing to send. -/
  | outside
  | waiting (frame : Frame)
  /-- The line was held until the writer's patience ended; the frame that is
      being received is to be dropped. -/
  | givenUp
  | holding (frame : Frame)
  /-- The frame is written, or has failed; the line is to be given back. -/
  | done
  deriving DecidableEq

/-- Whether the line is the writer's. -/
def WriterAt.holdsLine : WriterAt → Bool
  | .holding _ | .done => true
  | .outside | .waiting _ | .givenUp => false

/-- A link, and how far each party is. -/
structure Traffic (π : Type) where
  link : Link π
  reader : ReaderAt
  /-- Whether the line is the reader's: from the moment that it takes the line
      until it gives the line back, or the frame is dropped. -/
  readerHolds : Bool
  writer : Nat → WriterAt
  /-- Whether the closer has closed the port and has still to resynchronize. -/
  closing : Bool

/-- A byte leaves the line as the place that it gets the reader to says. -/
theorem Link.tookIn_line {π : Type} (l : Link π) (byte : UInt8) :
    (l.tookIn byte).line =
      match ReaderAt.after l.decoder (l.decoder.push byte).2 with
      | .between => l.line
      | .entering => l.line.acquire?.getD l.line
      | .leaving => l.line.release := by
  have hline : (l.tookIn byte).line = lineAfter l.line l.decoder (l.decoder.push byte).2 := by
    unfold tookIn receiveByte
    dsimp only
    split <;> rfl
  rw [hline]
  unfold lineAfter ReaderAt.after
  cases l.decoder.inFrame <;> cases (l.decoder.push byte).2.inFrame <;> rfl

namespace Traffic

variable {π : Type}

/-- Nobody has done anything yet. -/
def new (port : π) (lockTimeout : Nat) : Traffic π where
  link := .new port lockTimeout
  reader := .between
  readerHolds := false
  writer _ := .outside
  closing := false

/-- Whether a party holds the line. -/
def holds (t : Traffic π) : Party → Bool
  | .reader => t.readerHolds
  | .writer w => (t.writer w).holdsLine
  | .closer => false

/-! ## §2. Steps -/

/-- A step of some party. -/
inductive Action where
  /-- The reader puts a byte through the decoder. -/
  | push (byte : UInt8)
  /-- The reader takes the line. -/
  | enter
  /-- The reader gives the line back. -/
  | leave
  | call (w : Nat) (frame : Frame)
  | take (w : Nat)
  | giveUp (w : Nat)
  | write (w : Nat)
  | release (w : Nat)
  | close
  /-- A writer that has given up, or the closer, drops the frame that is being
      received. -/
  | resynchronize (p : Party)
  deriving DecidableEq

/-- Whose step it is. -/
def Action.party : Action → Party
  | .push _ | .enter | .leave => .reader
  | .call w _ | .take w | .giveUp w | .write w | .release w => .writer w
  | .close => .closer
  | .resynchronize p => p

def withLine (t : Traffic π) (line : Line) : Traffic π :=
  { t with link := { t.link with line := line } }

/-- A writer gets to another place. -/
def move (t : Traffic π) (w : Nat) (place : WriterAt) : Traffic π :=
  { t with writer := Function.update t.writer w place }

/-- A byte goes through the decoder; the line is left to the next step. -/
def pushed (t : Traffic π) (byte : UInt8) : Traffic π :=
  { t with
    link := { t.link.tookIn byte with line := t.link.line }
    reader := .after t.link.decoder (t.link.decoder.push byte).2 }

theorem pushed_fits (t : Traffic π) (byte : UInt8) :
    (t.pushed byte).reader.Fits (t.pushed byte).link.decoder.inFrame t.link.decoder.inFrame := by
  show (ReaderAt.after _ _).Fits (t.link.tookIn byte).decoder.inFrame _
  rw [Link.tookIn_decoder]
  exact ReaderAt.fits_after _ _

/-- The frame that is being received is dropped, and with it the reader's hold
    on the line. -/
def resynchronized (t : Traffic π) : Traffic π :=
  { t with
    link := t.link.resynchronize
    readerHolds := t.readerHolds && !t.link.decoder.inFrame }

section

variable [Port π]

/-- A frame is written out, and counted if that works. -/
def wrote (t : Traffic π) (frame : Frame) : Traffic π :=
  let (result, port) := Link.writeOut frame.toBytes t.link.port
  let sent := if result.isOk then t.link.sent.record frame.type else t.link.sent
  { t with link := { t.link with port := port, sent := sent } }

/-- The port is closed; a closer that fails to close it is done. -/
def closed (t : Traffic π) : Traffic π :=
  let (result, port) := Port.close t.link.port
  { t with link := { t.link with port := port }, closing := result.isOk }

/-- The traffic after a step; none if the party is elsewhere, or has to wait. -/
def step? (t : Traffic π) : Action → Option (Traffic π)
  | .push byte => if t.reader = .between then some (t.pushed byte) else none
  | .enter =>
    match t.reader, t.link.line.acquire? with
    | .entering, some line =>
      some { t.withLine line with reader := .between, readerHolds := true }
    | _, _ => none
  | .leave =>
    if t.reader = .leaving then
      some { t.withLine t.link.line.release with reader := .between, readerHolds := false }
    else none
  | .call w frame => if t.writer w = .outside then some (t.move w (.waiting frame)) else none
  | .take w =>
    match t.writer w, t.link.line.acquire? with
    | .waiting frame, some line => some ((t.withLine line).move w (.holding frame))
    | _, _ => none
  | .giveUp w =>
    match t.writer w, t.link.line.acquire? with
    | .waiting _, none => some (t.move w .givenUp)
    | _, _ => none
  | .write w =>
    match t.writer w with
    | .holding frame => some ((t.wrote frame).move w .done)
    | _ => none
  | .release w =>
    if t.writer w = .done then some ((t.withLine t.link.line.release).move w .outside) else none
  | .close => if t.closing then none else some t.closed
  | .resynchronize (.writer w) =>
    if t.writer w = .givenUp then some (t.resynchronized.move w .outside) else none
  | .resynchronize .closer =>
    if t.closing then some { t.resynchronized with closing := false } else none
  | .resynchronize .reader => none

/-- Steps in the order in which they come. -/
def run? (t : Traffic π) : List Action → Option (Traffic π)
  | [] => some t
  | a :: rest => (t.step? a).bind fun t => t.run? rest

/-- What a step can do. -/
inductive Goes (t : Traffic π) : Action → Traffic π → Prop
  | push {byte : UInt8} (hreader : t.reader = .between) : Goes t (.push byte) (t.pushed byte)
  | enter (hreader : t.reader = .entering) (hline : t.link.line = .free) :
    Goes t .enter { t.withLine .held with reader := .between, readerHolds := true }
  | leave (hreader : t.reader = .leaving) :
    Goes t .leave { t.withLine .free with reader := .between, readerHolds := false }
  | call {w : Nat} {frame : Frame} (hwriter : t.writer w = .outside) :
    Goes t (.call w frame) (t.move w (.waiting frame))
  | take {w : Nat} {frame : Frame} (hwriter : t.writer w = .waiting frame)
      (hline : t.link.line = .free) : Goes t (.take w) ((t.withLine .held).move w (.holding frame))
  | giveUp {w : Nat} {frame : Frame} (hwriter : t.writer w = .waiting frame)
      (hline : t.link.line = .held) : Goes t (.giveUp w) (t.move w .givenUp)
  | write {w : Nat} {frame : Frame} (hwriter : t.writer w = .holding frame) :
    Goes t (.write w) ((t.wrote frame).move w .done)
  | release {w : Nat} (hwriter : t.writer w = .done) :
    Goes t (.release w) ((t.withLine .free).move w .outside)
  | close (hcloser : t.closing = false) : Goes t .close t.closed
  | abandon {w : Nat} (hwriter : t.writer w = .givenUp) :
    Goes t (.resynchronize (.writer w)) (t.resynchronized.move w .outside)
  | shut (hcloser : t.closing = true) :
    Goes t (.resynchronize .closer) { t.resynchronized with closing := false }

theorem goes_of_step? {t t' : Traffic π} {a : Action} (hstep : t.step? a = some t') :
    t.Goes a t' := by
  cases a with
  | push byte =>
    obtain ⟨hreader, ⟨⟩⟩ := Option.ite_none_right_eq_some.mp hstep
    exact .push hreader
  | enter =>
    dsimp only [step?] at hstep
    split at hstep
    · next line hreader hline =>
      obtain ⟨hfree, rfl⟩ := Line.acquire?_eq_some_iff.mp hline
      cases hstep
      exact .enter hreader hfree
    · cases hstep
  | leave =>
    obtain ⟨hreader, ⟨⟩⟩ := Option.ite_none_right_eq_some.mp hstep
    exact .leave hreader
  | call w frame =>
    obtain ⟨hwriter, ⟨⟩⟩ := Option.ite_none_right_eq_some.mp hstep
    exact .call hwriter
  | take w =>
    dsimp only [step?] at hstep
    split at hstep
    · next frame line hwriter hline =>
      obtain ⟨hfree, rfl⟩ := Line.acquire?_eq_some_iff.mp hline
      cases hstep
      exact .take hwriter hfree
    · cases hstep
  | giveUp w =>
    dsimp only [step?] at hstep
    split at hstep
    · next frame hwriter hline =>
      cases hstep
      exact .giveUp hwriter (Line.acquire?_eq_none_iff.mp hline)
    · cases hstep
  | write w =>
    dsimp only [step?] at hstep
    split at hstep
    · next frame hwriter =>
      cases hstep
      exact .write hwriter
    · cases hstep
  | release w =>
    obtain ⟨hwriter, ⟨⟩⟩ := Option.ite_none_right_eq_some.mp hstep
    exact .release hwriter
  | close =>
    obtain ⟨hcloser, ⟨⟩⟩ := Option.ite_none_left_eq_some.mp hstep
    exact .close (Bool.eq_false_iff.mpr hcloser)
  | resynchronize p =>
    cases p with
    | reader => cases hstep
    | writer w =>
      obtain ⟨hwriter, ⟨⟩⟩ := Option.ite_none_right_eq_some.mp hstep
      exact .abandon hwriter
    | closer =>
      obtain ⟨hcloser, ⟨⟩⟩ := Option.ite_none_right_eq_some.mp hstep
      exact .shut hcloser

theorem Goes.step? {t t' : Traffic π} {a : Action} (hgoes : t.Goes a t') :
    t.step? a = some t' := by
  cases hgoes with
  | push hreader => exact if_pos hreader
  | enter hreader hline => simp only [Traffic.step?, hreader, hline, Line.acquire?]
  | leave hreader => exact if_pos hreader
  | call hwriter => exact if_pos hwriter
  | take hwriter hline => simp only [Traffic.step?, hwriter, hline, Line.acquire?]
  | giveUp hwriter hline => simp only [Traffic.step?, hwriter, hline, Line.acquire?]
  | write hwriter => simp only [Traffic.step?, hwriter]
  | release hwriter => exact if_pos hwriter
  | close hcloser => exact if_neg (Bool.eq_false_iff.mp hcloser)
  | abandon hwriter => exact if_pos hwriter
  | shut hcloser => exact if_pos hcloser

/-! ## §3. One party alone -/

/-- The steps for a byte when nobody else is there. -/
def byteSteps (l : Link π) (byte : UInt8) : List Action :=
  match ReaderAt.after l.decoder (l.decoder.push byte).2 with
  | .between => [.push byte]
  | .entering => [.push byte, .enter]
  | .leaving => [.push byte, .leave]

/-- The steps for a frame that is sent when nobody else is there. -/
def sendSteps (l : Link π) (w : Nat) (frame : Frame) : List Action :=
  match l.line with
  | .free => [.call w frame, .take w, .write w, .release w]
  | .held => [.call w frame, .giveUp w, .resynchronize (.writer w)]

/-- The steps of closing when nobody else is there. -/
def closeSteps (l : Link π) : List Action :=
  match (Port.close l.port).1 with
  | .ok _ => [.close, .resynchronize .closer]
  | .error _ => [.close]

/-- **A reader that is left alone takes in a byte.** -/
theorem run_byteSteps {t : Traffic π} (hreader : t.reader = .between)
    (hlink : t.link.Balanced) (byte : UInt8) :
    (t.run? (byteSteps t.link byte)).map (·.link) = some (t.link.tookIn byte) := by
  have hwhole {line : Line} (hline : (t.link.tookIn byte).line = line) :
      ({ t.link.tookIn byte with line := line } : Link π) = t.link.tookIn byte := by
    rw [← hline]
  have hline := t.link.tookIn_line byte
  unfold byteSteps
  cases hplace : ReaderAt.after t.link.decoder (t.link.decoder.push byte).2 with
  | between =>
    rw [hplace] at hline
    simpa [run?, step?, hreader, pushed] using hwhole hline
  | entering =>
    rw [hplace] at hline
    have hfree : t.link.line = .free := by
      have hfits := ReaderAt.fits_after t.link.decoder (t.link.decoder.push byte).2
      rw [hplace] at hfits
      exact Line.eq_free_of_not_held (hlink.trans hfits.2)
    rw [hfree] at hline
    simpa [run?, step?, hreader, pushed, hplace, hfree, withLine, Line.acquire?]
      using hwhole hline
  | leaving =>
    rw [hplace] at hline
    simpa [run?, step?, hreader, pushed, hplace, withLine] using hwhole hline

/-- **A writer that is left alone sends its frame**, or gives up. -/
theorem run_sendSteps {t : Traffic π} {w : Nat} (hwriter : t.writer w = .outside)
    (frame : Frame) :
    (t.run? (sendSteps t.link w frame)).map (·.link) = some (t.link.send frame).2 := by
  unfold sendSteps Link.send
  cases hline : t.link.line with
  | free =>
    rcases hwrite : Link.writeOut frame.toBytes t.link.port with ⟨result, port⟩
    cases result with
    | ok _ =>
      simp [run?, step?, hwriter, move, withLine, wrote, hline, hwrite, Line.acquire?,
        Except.isOk, Except.toBool]
    | error fault =>
      simp [run?, step?, hwriter, move, withLine, wrote, hline, hwrite, Line.acquire?,
        Except.isOk, Except.toBool]
  | held =>
    simp [run?, step?, hwriter, move, hline, Line.acquire?, resynchronized]

/-- **A closer that is left alone closes the port.** -/
theorem run_closeSteps {t : Traffic π} (hcloser : t.closing = false) :
    (t.run? (closeSteps t.link)).map (·.link) = some t.link.closePort.2 := by
  unfold closeSteps Link.closePort
  rcases hclose : Port.close t.link.port with ⟨result, port⟩
  cases result with
  | ok wasOpen =>
    simp [run?, step?, hcloser, closed, hclose, resynchronized, Except.isOk, Except.toBool]
  | error e => simp [run?, step?, hcloser, closed, hclose]

end

/-! ## §4. Who holds the line -/

/-- The line is held by one party, or by nobody. -/
structure HeldBy (t : Traffic π) (holder : Option Party) : Prop where
  holds_iff : ∀ p, t.holds p = true ↔ holder = some p
  line : t.link.line = holder.elim .free fun _ => .held

theorem writer_move_self (t : Traffic π) (w : Nat) (place : WriterAt) :
    (t.move w place).writer w = place := by
  show Function.update t.writer w place w = place
  rw [Function.update_self]

theorem holds_move_self (t : Traffic π) (w : Nat) (place : WriterAt) :
    (t.move w place).holds (.writer w) = place.holdsLine :=
  congrArg WriterAt.holdsLine (t.writer_move_self w place)

theorem holds_move_of_ne (t : Traffic π) {w : Nat} (place : WriterAt) {p : Party}
    (hp : p ≠ .writer w) : (t.move w place).holds p = t.holds p := by
  cases p with
  | reader => rfl
  | closer => rfl
  | writer v =>
    have hv : v ≠ w := fun h => hp (congrArg Party.writer h)
    show (Function.update t.writer w place v).holdsLine = _
    rw [Function.update_of_ne hv]
    rfl

/-- A writer that goes on without taking the line or giving it back. -/
theorem holds_move_of_eq {t : Traffic π} {w : Nat} {here : WriterAt} (hwriter : t.writer w = here)
    (place : WriterAt) (hsame : place.holdsLine = here.holdsLine) (p : Party) :
    (t.move w place).holds p = t.holds p := by
  by_cases hp : p = .writer w
  · rw [hp, holds_move_self, hsame, ← hwriter]
    rfl
  · exact holds_move_of_ne t place hp

namespace HeldBy

variable {t t' : Traffic π} {holder : Option Party} {p : Party}

theorem congr (h : t.HeldBy holder) (hholds : ∀ p, t'.holds p = t.holds p)
    (hline : t'.link.line = t.link.line) : t'.HeldBy holder where
  holds_iff p := by rw [hholds]; exact h.holds_iff p
  line := hline.trans h.line

/-- A free line is taken. -/
theorem taken (h : t.HeldBy none) (hp : t'.holds p = true)
    (hothers : ∀ q, q ≠ p → t'.holds q = t.holds q) (hline : t'.link.line = .held) :
    t'.HeldBy (some p) where
  holds_iff q := by
    by_cases hq : q = p
    · rw [hq]
      exact iff_of_true hp rfl
    · rw [hothers q hq, h.holds_iff q]
      exact iff_of_false nofun fun heq => hq (Option.some.inj heq).symm
  line := hline

/-- Whoever holds the line gives it back, or loses it. -/
theorem given (h : t.HeldBy (some p)) (hp : t'.holds p = false)
    (hothers : ∀ q, q ≠ p → t'.holds q = t.holds q) (hline : t'.link.line = .free) :
    t'.HeldBy none where
  holds_iff q := by
    by_cases hq : q = p
    · rw [hq, hp]
      exact iff_of_false nofun nofun
    · rw [hothers q hq, h.holds_iff q]
      exact iff_of_false (fun heq => hq (Option.some.inj heq).symm) nofun
  line := hline

end HeldBy

/-- **The line has one user at most**, and the place of the reader says
    whether that is the reader. -/
structure Orderly (t : Traffic π) : Prop where
  heldBy : ∃ holder, t.HeldBy holder
  fits : t.reader.Fits t.link.decoder.inFrame t.readerHolds

theorem orderly_new (port : π) (lockTimeout : Nat) : (new port lockTimeout).Orderly where
  heldBy := ⟨none, fun p => by cases p <;> exact iff_of_false nofun nofun, rfl⟩
  fits := rfl

namespace Orderly

variable {t : Traffic π} {p q : Party}

theorem heldBy_none (ht : t.Orderly) (hline : t.link.line = .free) : t.HeldBy none := by
  obtain ⟨holder, hholder⟩ := ht.heldBy
  cases holder with
  | none => exact hholder
  | some p => exact nomatch hline.symm.trans hholder.line

theorem heldBy_some (ht : t.Orderly) (hp : t.holds p = true) : t.HeldBy (some p) := by
  obtain ⟨holder, hholder⟩ := ht.heldBy
  obtain rfl := (hholder.holds_iff p).mp hp
  exact hholder

theorem alone (ht : t.Orderly) (hp : t.holds p = true) (hq : t.holds q = true) : p = q :=
  Option.some.inj (((ht.heldBy_some hq).holds_iff p).mp hp).symm

theorem exists_holder (ht : t.Orderly) (hline : t.link.line = .held) :
    ∃ p, t.holds p = true := by
  obtain ⟨holder, hholder⟩ := ht.heldBy
  cases holder with
  | none => exact nomatch hline.symm.trans hholder.line
  | some p => exact ⟨p, (hholder.holds_iff p).mpr rfl⟩

/-- A reader that is in a frame and has not the line to take is between bytes,
    and the line is its own. -/
theorem between_of_inFrame (ht : t.Orderly) (hreader : t.reader ≠ .entering)
    (hframe : t.link.decoder.inFrame = true) : t.reader = .between ∧ t.readerHolds = true := by
  have hfits := ht.fits
  cases hplace : t.reader with
  | between => rw [hplace, hframe] at hfits; exact ⟨rfl, hfits⟩
  | entering => exact absurd hplace hreader
  | leaving => rw [hplace, hframe] at hfits; exact nomatch hfits.1

/-- Between bytes, and while no writer holds it, the line is held exactly for
    the frame that is being received. -/
theorem balanced (ht : t.Orderly) (hreader : t.reader = .between)
    (hwriters : ∀ w, t.holds (.writer w) = false) : t.link.Balanced := by
  have hfits : t.readerHolds = t.link.decoder.inFrame := by
    have h := ht.fits
    rw [hreader] at h
    exact h
  unfold Link.Balanced
  rw [← hfits]
  cases hline : t.link.line with
  | free =>
    have hnone := ((ht.heldBy_none hline).holds_iff .reader).not.mpr nofun
    exact (Bool.eq_false_iff.mpr hnone).symm
  | held =>
    obtain ⟨p, hp⟩ := ht.exists_holder hline
    cases p with
    | reader => exact hp.symm
    | writer w => rw [hwriters w] at hp; cases hp
    | closer => cases hp

end Orderly

/-! ## §5. Steps in time -/

theorem resynchronized_of_not_inFrame {t : Traffic π} (hframe : t.link.decoder.inFrame = false) :
    t.resynchronized = t := by
  unfold resynchronized Link.resynchronize
  rw [hframe, Bool.not_false, Bool.and_true]
  rfl

theorem resynchronized_of_inFrame {t : Traffic π} (hframe : t.link.decoder.inFrame = true) :
    t.resynchronized =
      { t with
        link := { t.link with decoder := .idle, line := .free }
        readerHolds := false } := by
  unfold resynchronized Link.resynchronize
  rw [hframe, Bool.not_true, Bool.and_false]
  rfl

/-- Whether a step does not drop a frame before the reader has the line for
    it. -/
def inTime (t : Traffic π) : Action → Bool
  | .resynchronize _ => t.reader != .entering
  | _ => true

/-- A frame that is dropped in time is one that has the line. -/
theorem Orderly.resynchronized {t : Traffic π} (ht : t.Orderly)
    (hreader : t.reader ≠ .entering) : t.resynchronized.Orderly := by
  cases hframe : t.link.decoder.inFrame with
  | false => rw [resynchronized_of_not_inFrame hframe]; exact ht
  | true =>
    obtain ⟨hplace, hholds⟩ := ht.between_of_inFrame hreader hframe
    rw [resynchronized_of_inFrame hframe]
    refine ⟨⟨none, (ht.heldBy_some (p := .reader) hholds).given rfl ?_ rfl⟩, ?_⟩
    · intro q hq
      cases q with
      | reader => exact absurd rfl hq
      | writer w => rfl
      | closer => rfl
    · show t.reader.Fits false false
      rw [hplace]
      rfl

variable [Port π]

/-- Whether no step of a run drops a frame before the reader has the line for
    it. -/
def timely (t : Traffic π) : List Action → Bool
  | [] => true
  | a :: rest => t.inTime a && (t.step? a).all fun t => t.timely rest

namespace Orderly

variable {t t' : Traffic π} {a : Action} {p : Party}

/-- **Every step in time leaves the line with one user at most.** -/
theorem step (ht : t.Orderly) (hin : t.inTime a = true) (hstep : t.step? a = some t') :
    t'.Orderly := by
  obtain ⟨holder, hholder⟩ := ht.heldBy
  have hfits := ht.fits
  have hothers {t' : Traffic π} (hwriter : t'.writer = t.writer) (q : Party) (hq : q ≠ .reader) :
      t'.holds q = t.holds q := by
    cases q with
    | reader => exact absurd rfl hq
    | writer w => exact congrArg (fun writer => (writer w).holdsLine) hwriter
    | closer => rfl
  cases goes_of_step? hstep with
  | @push byte hreader =>
    rw [hreader] at hfits
    have hafter := t.pushed_fits byte
    rw [← show t.readerHolds = _ from hfits] at hafter
    exact ⟨⟨holder, hholder.congr (fun _ => rfl) rfl⟩, hafter⟩
  | enter hreader hline =>
    rw [hreader] at hfits
    exact ⟨⟨some .reader, (ht.heldBy_none hline).taken rfl (hothers rfl) rfl⟩, hfits.1.symm⟩
  | leave hreader =>
    rw [hreader] at hfits
    have hp : t.holds .reader = true := hfits.2
    exact ⟨⟨none, (ht.heldBy_some hp).given rfl (hothers rfl) rfl⟩, hfits.1.symm⟩
  | call hwriter =>
    exact ⟨⟨holder, hholder.congr (holds_move_of_eq hwriter _ rfl) rfl⟩, hfits⟩
  | @take w frame hwriter hline =>
    exact ⟨⟨some (.writer w), (ht.heldBy_none hline).taken (holds_move_self _ _ _)
      (fun q hq => holds_move_of_ne _ _ hq) rfl⟩, hfits⟩
  | giveUp hwriter hline =>
    exact ⟨⟨holder, hholder.congr (holds_move_of_eq hwriter _ rfl) rfl⟩, hfits⟩
  | @write w frame hwriter =>
    have hsame := holds_move_of_eq (t := t.wrote frame) hwriter .done rfl
    exact ⟨⟨holder, hholder.congr hsame rfl⟩, hfits⟩
  | @release w hwriter =>
    have hp : t.holds (.writer w) = true := congrArg WriterAt.holdsLine hwriter
    exact ⟨⟨none, (ht.heldBy_some hp).given (holds_move_self _ _ _)
      (fun q hq => holds_move_of_ne _ _ hq) rfl⟩, hfits⟩
  | close hcloser => exact ⟨⟨holder, hholder.congr (fun _ => rfl) rfl⟩, hfits⟩
  | abandon hwriter =>
    have hdropped := ht.resynchronized (bne_iff_ne.mp hin)
    obtain ⟨holder, hholder⟩ := hdropped.heldBy
    have hsame := holds_move_of_eq (t := t.resynchronized) hwriter .outside rfl
    exact ⟨⟨holder, hholder.congr hsame rfl⟩, hdropped.fits⟩
  | shut hcloser =>
    have hdropped := ht.resynchronized (bne_iff_ne.mp hin)
    obtain ⟨holder, hholder⟩ := hdropped.heldBy
    exact ⟨⟨holder, hholder.congr (fun _ => rfl) rfl⟩, hdropped.fits⟩

theorem run {actions : List Action} (ht : t.Orderly) (hrun : t.run? actions = some t')
    (htimely : t.timely actions = true) : t'.Orderly := by
  -- by induction on the steps, each of which is in time where it is taken
  induction actions generalizing t with
  | nil =>
    cases hrun
    exact ht
  | cons a rest ih =>
    obtain ⟨u, hstep, hrest⟩ := Option.bind_eq_some_iff.mp hrun
    obtain ⟨hin, hlater⟩ := (Bool.and_eq_true _ _).mp htimely
    rw [hstep] at hlater
    exact ih (ht.step hin hstep) hrest hlater

/-- **Who frees the line**: whoever holds it, or a party that drops the frame
    for which the reader holds it. -/
theorem freed (ht : t.Orderly) (hin : t.inTime a = true) (hstep : t.step? a = some t')
    (hheld : t.link.line = .held) (hfree : t'.link.line = .free) (hp : t.holds p = true) :
    p = a.party ∨ (a = .resynchronize a.party ∧ p = .reader ∧ t.reader = .between
      ∧ t.link.decoder.inFrame = true) := by
  have hkept {t' : Traffic π} (hsame : t'.link.line = t.link.line) : t'.link.line ≠ .free :=
    fun h => nomatch hheld.symm.trans (hsame.symm.trans h)
  have hdropped (hreader : t.reader ≠ .entering)
      (hfree : t.resynchronized.link.line = .free) :
      p = .reader ∧ t.reader = .between ∧ t.link.decoder.inFrame = true := by
    cases hframe : t.link.decoder.inFrame with
    | false =>
      rw [resynchronized_of_not_inFrame hframe] at hfree
      exact absurd hfree (hkept rfl)
    | true =>
      obtain ⟨hplace, hholds⟩ := ht.between_of_inFrame hreader hframe
      exact ⟨ht.alone hp hholds, hplace, rfl⟩
  have hfits := ht.fits
  cases goes_of_step? hstep with
  | push hreader => exact absurd hfree (hkept rfl)
  | enter hreader hline => exact absurd hline (hkept rfl)
  | leave hreader =>
    rw [hreader] at hfits
    exact .inl (ht.alone hp hfits.2)
  | call hwriter => exact absurd hfree (hkept rfl)
  | take hwriter hline => exact absurd hline (hkept rfl)
  | giveUp hwriter hline => exact absurd hfree (hkept rfl)
  | write hwriter => exact absurd hfree (hkept rfl)
  | release hwriter => exact .inl (ht.alone hp (congrArg WriterAt.holdsLine hwriter))
  | close hcloser => exact absurd hfree (hkept rfl)
  | abandon hwriter => exact .inr ⟨rfl, hdropped (bne_iff_ne.mp hin) hfree⟩
  | shut hcloser => exact .inr ⟨rfl, hdropped (bne_iff_ne.mp hin) hfree⟩

end Orderly

/-! ## §6. How a held line gets free -/

/-- A party can free the line in so many steps, and nobody else need move. -/
inductive FreedBy (p : Party) : Nat → Traffic π → Prop
  | free {n : Nat} {t : Traffic π} (hline : t.link.line = .free) : FreedBy p n t
  | step {n : Nat} {t t' : Traffic π} {a : Action} (hparty : a.party = p)
      (hstep : t.step? a = some t') (hrest : FreedBy p n t') : FreedBy p (n + 1) t

section

variable {t : Traffic π} {w : Nat}

/-- A writer that holds the line writes its frame and gives the line back. -/
theorem freedBy_writer (hp : t.holds (.writer w) = true) : t.FreedBy (.writer w) 2 := by
  have hdone {n : Nat} {t : Traffic π} (hwriter : t.writer w = .done) :
      t.FreedBy (.writer w) (n + 1) := .step rfl (Goes.release hwriter).step? (.free rfl)
  have hplace : (t.writer w).holdsLine = true := hp
  cases hwriter : t.writer w with
  | outside => rw [hwriter] at hplace; cases hplace
  | waiting frame => rw [hwriter] at hplace; cases hplace
  | givenUp => rw [hwriter] at hplace; cases hplace
  | holding frame => exact .step rfl (Goes.write hwriter).step? (hdone (writer_move_self _ w _))
  | done => exact hdone hwriter

/-- **Whoever wants to send can drop a frame that holds the line**, and needs
    nobody for it. -/
theorem freedBy_givingUp (hframe : t.link.decoder.inFrame = true) (hline : t.link.line = .held)
    (hwriter : t.holds (.writer w) = false) : t.FreedBy (.writer w) 3 := by
  have hgivenUp {n : Nat} {t : Traffic π} (hwriter : t.writer w = .givenUp)
      (hframe : t.link.decoder.inFrame = true) : t.FreedBy (.writer w) (n + 1) := by
    refine .step rfl (Goes.abandon hwriter).step? (.free ?_)
    rw [resynchronized_of_inFrame hframe]
    rfl
  have hwaiting {n : Nat} {t : Traffic π} {frame : Frame} (hwriter : t.writer w = .waiting frame)
      (hframe : t.link.decoder.inFrame = true) (hline : t.link.line = .held) :
      t.FreedBy (.writer w) (n + 2) :=
    .step rfl (Goes.giveUp hwriter hline).step? (hgivenUp (writer_move_self t w _) hframe)
  have hplace : (t.writer w).holdsLine = false := hwriter
  cases hwriter : t.writer w with
  | outside =>
    have hcall : t.step? (.call w .ack) = some _ := (Goes.call hwriter).step?
    exact .step rfl hcall (hwaiting (writer_move_self t w _) hframe hline)
  | waiting frame => exact hwaiting hwriter hframe hline
  | givenUp => exact hgivenUp hwriter hframe
  | holding frame => rw [hwriter] at hplace; cases hplace
  | done => rw [hwriter] at hplace; cases hplace

/-- **A held line gets free**: its user gives it back in two steps, or it is
    held for a frame that any writer can drop. -/
theorem Orderly.freedBy (ht : t.Orderly) (hline : t.link.line = .held) :
    ∃ p, t.holds p = true
      ∧ (t.FreedBy p 2 ∨ p = .reader ∧ ∀ w, t.FreedBy (.writer w) 3) := by
  obtain ⟨p, hp⟩ := ht.exists_holder hline
  refine ⟨p, hp, ?_⟩
  cases p with
  | writer w => exact .inl (freedBy_writer hp)
  | closer => cases hp
  | reader =>
    have hfits := ht.fits
    rw [show t.readerHolds = true from hp] at hfits
    cases hreader : t.reader with
    | between =>
      rw [hreader] at hfits
      have hothers (w : Nat) : t.holds (.writer w) = false :=
        Bool.eq_false_iff.mpr fun hw => nomatch ht.alone hp hw
      exact .inr ⟨rfl, fun w => freedBy_givingUp hfits.symm hline (hothers w)⟩
    | entering => rw [hreader] at hfits; exact nomatch hfits.2
    | leaving => exact .inl (.step rfl (Goes.leave hreader).step? (.free rfl))

end

/-- The line is held for nobody, and no step of a party itself changes that. -/
structure Stranded (t : Traffic π) (p : Party) : Prop where
  line : t.link.line = .held
  writers : ∀ w, t.holds (.writer w) = false
  reader : t.reader = .between ∧ t.link.decoder.inFrame = false
    ∨ p = .reader ∧ t.reader = .entering

namespace Stranded

variable {t t' : Traffic π} {a : Action} {p : Party}

theorem step (hs : t.Stranded p) (hparty : a.party = p) (hstep : t.step? a = some t') :
    t'.Stranded p := by
  have hmoved (t : Traffic π) (hwriters : ∀ w, t.holds (.writer w) = false) (w : Nat)
      (place : WriterAt) (hplace : place.holdsLine = false) (v : Nat) :
      (t.move w place).holds (.writer v) = false := by
    by_cases hv : Party.writer v = .writer w
    · rw [hv, holds_move_self]
      exact hplace
    · rw [holds_move_of_ne t place hv]
      exact hwriters v
  have hdropped (hp : p ≠ .reader) : t.resynchronized = t := by
    obtain ⟨-, hframe⟩ | ⟨hp', -⟩ := hs.reader
    · exact resynchronized_of_not_inFrame hframe
    · exact absurd hp' hp
  have hline := hs.line
  have hplace := hs.reader
  cases goes_of_step? hstep with
  | @push byte hreader =>
    refine ⟨hline, hs.writers, ?_⟩
    have hfits := t.pushed_fits byte
    obtain ⟨-, hframe⟩ | ⟨-, hentering⟩ := hplace
    · rw [hframe] at hfits
      cases hafter : (t.pushed byte).reader with
      | between => rw [hafter] at hfits; exact .inl ⟨rfl, hfits.symm⟩
      | entering => exact .inr ⟨hparty.symm, rfl⟩
      | leaving => rw [hafter] at hfits; exact nomatch hfits.2
    · exact nomatch hreader.symm.trans hentering
  | enter hreader hfree => exact nomatch hline.symm.trans hfree
  | leave hreader =>
    obtain ⟨hbetween, -⟩ | ⟨-, hentering⟩ := hplace
    · exact nomatch hreader.symm.trans hbetween
    · exact nomatch hreader.symm.trans hentering
  | call hwriter => exact ⟨hline, hmoved t hs.writers _ _ rfl, hplace⟩
  | take hwriter hfree => exact nomatch hline.symm.trans hfree
  | giveUp hwriter => exact ⟨hline, hmoved t hs.writers _ _ rfl, hplace⟩
  | @write w frame hwriter =>
    exact nomatch (hs.writers w).symm.trans (congrArg WriterAt.holdsLine hwriter)
  | @release w hwriter =>
    exact nomatch (hs.writers w).symm.trans (congrArg WriterAt.holdsLine hwriter)
  | close hcloser => exact ⟨hline, hs.writers, hplace⟩
  | abandon hwriter =>
    rw [hdropped (by rw [← hparty]; exact nofun)]
    exact ⟨hline, hmoved t hs.writers _ _ rfl, hplace⟩
  | shut hcloser =>
    rw [hdropped (by rw [← hparty]; exact nofun)]
    exact ⟨hline, hs.writers, hplace⟩

/-- **Nobody alone frees such a line**, in however many steps. -/
theorem not_freedBy (hs : t.Stranded p) (n : Nat) : ¬t.FreedBy p n := by
  intro hfreed
  induction hfreed with
  | free hline => exact nomatch hs.line.symm.trans hline
  | step hparty hstep _ ih => exact ih (hs.step hparty hstep)

end Stranded

/-- **A frame that is dropped before the reader has the line for it** leaves
    the line held for nobody. -/
theorem Orderly.stranded {t u v : Traffic π} {p : Party} (ht : t.Orderly)
    (hreader : t.reader = .entering) (hline : t.link.line = .free)
    (hdrop : t.step? (.resynchronize p) = some u) (henter : u.step? .enter = some v) (q : Party) :
    v.Stranded q := by
  have hframe : t.link.decoder.inFrame = true := by
    have hfits := ht.fits
    rw [hreader] at hfits
    exact hfits.1
  have hwriters (w : Nat) : t.holds (.writer w) = false :=
    Bool.eq_false_iff.mpr (((ht.heldBy_none hline).holds_iff _).not.mpr nofun)
  cases goes_of_step? henter with
  | enter _ _ =>
    cases goes_of_step? hdrop with
    | abandon hwriter =>
      refine ⟨rfl, fun w => ?_, .inl ⟨rfl, ?_⟩⟩
      · exact (holds_move_of_eq hwriter .outside rfl (.writer w)).trans (hwriters w)
      · show t.resynchronized.link.decoder.inFrame = false
        rw [resynchronized_of_inFrame hframe]
        rfl
    | shut hcloser =>
      refine ⟨rfl, hwriters, .inl ⟨rfl, ?_⟩⟩
      · show t.resynchronized.link.decoder.inFrame = false
        rw [resynchronized_of_inFrame hframe]
        rfl

/-! ## §7. What parties can rely on -/

/-- **A line that several parties use.**  As long as nobody drops a frame
    before the reader has the line for it:
    (1) no two parties hold the line at once;
    (2) the line is freed by whoever holds it, or by a party that drops the
        frame for which the reader, between two bytes, holds it;
    (3) between two bytes, and while no writer holds it, the line is held
        exactly while a frame is being received;
    (4) a line that is held is given back by its user in two steps, or can be
        freed by any writer in three. -/
theorem line_has_one_user (port : π) (lockTimeout : Nat) (actions : List Action) {t : Traffic π}
    (hrun : (new port lockTimeout).run? actions = some t)
    (htimely : (new port lockTimeout).timely actions = true) :
    (∀ p q, t.holds p = true → t.holds q = true → p = q)
    ∧ (∀ a u p, t.step? a = some u → t.inTime a = true →
        t.link.line = .held → u.link.line = .free → t.holds p = true →
        p = a.party ∨ (a = .resynchronize a.party ∧ p = .reader ∧ t.reader = .between
          ∧ t.link.decoder.inFrame = true))
    ∧ (t.reader = .between → (∀ w, t.holds (.writer w) = false) →
        (t.link.line = .held ↔ t.link.decoder.inFrame = true))
    ∧ (t.link.line = .held →
        ∃ p, t.holds p = true
          ∧ (t.FreedBy p 2 ∨ p = .reader ∧ ∀ w, t.FreedBy (.writer w) 3)) := by
  have ht : t.Orderly := (orderly_new port lockTimeout).run hrun htimely
  refine ⟨fun p q hp hq => ht.alone hp hq, ?_, ?_, ht.freedBy⟩
  · intro a u p hstep hin hheld hfree hp
    exact ht.freed hin hstep hheld hfree hp
  · intro hreader hwriters
    have hbalanced : t.link.line.isHeld = t.link.decoder.inFrame := ht.balanced hreader hwriters
    rw [← hbalanced]
    cases t.link.line <;> decide

/-- A writer has waited in vain for the end of a frame. -/
def stall : List Action :=
  [.push 0x01, .enter, .push 0x05, .call 0 .ack, .giveUp 0]

theorem line_has_one_user_in_stall :
    ∃ t, (new ({ isOpen := true } : ScriptedPort) 2).run? stall = some t
      ∧ (new ({ isOpen := true } : ScriptedPort) 2).timely stall = true
      ∧ t.link.line = .held
      ∧ t.holds .reader = true
      ∧ (∀ p q, t.holds p = true → t.holds q = true → p = q)
      ∧ (∀ a u p, t.step? a = some u → t.inTime a = true →
          t.link.line = .held → u.link.line = .free → t.holds p = true →
          p = a.party ∨ (a = .resynchronize a.party ∧ p = .reader ∧ t.reader = .between
            ∧ t.link.decoder.inFrame = true))
      ∧ (t.reader = .between → (∀ w, t.holds (.writer w) = false) →
          (t.link.line = .held ↔ t.link.decoder.inFrame = true))
      ∧ (t.link.line = .held →
          ∃ p, t.holds p = true
            ∧ (t.FreedBy p 2 ∨ p = .reader ∧ ∀ w, t.FreedBy (.writer w) 3)) := by
  have hrun : (new ({ isOpen := true } : ScriptedPort) 2).run? stall = some _ := rfl
  exact ⟨_, hrun, rfl, rfl, rfl, line_has_one_user _ 2 stall hrun rfl⟩

/-- Without that condition none of this holds.  Even in time the line is freed
    by a party that does not hold it. -/
theorem line_has_more_users :
    ¬(∀ actions t, (new ({ isOpen := true } : ScriptedPort) 2).run? actions = some t →
        ∀ p q, t.holds p = true → t.holds q = true → p = q)
    ∧ ¬(∀ actions t, (new ({ isOpen := true } : ScriptedPort) 2).run? actions = some t →
        ∀ a u p, t.step? a = some u → t.link.line = .held → u.link.line = .free →
          t.holds p = true → p = a.party)
    ∧ ¬(∀ actions t, (new ({ isOpen := true } : ScriptedPort) 2).run? actions = some t →
        t.reader = .between → (∀ w, t.writer w = .outside) →
          (t.link.line = .held ↔ t.link.decoder.inFrame = true)) := by
  refine ⟨fun h => ?_, fun h => ?_, fun h => ?_⟩
  · have hsame := h [.call 0 .ack, .take 0, .push 0x01, .call 1 .ack, .giveUp 1,
      .resynchronize (.writer 1), .call 2 .ack, .take 2] _ rfl (.writer 0) (.writer 2) rfl rfl
    cases hsame
  · have hown := h stall _ rfl (.resynchronize (.writer 0)) _ .reader rfl rfl rfl rfl
    cases hown
  · have hheld := h [.push 0x01, .close, .resynchronize .closer, .enter] _ rfl rfl (fun _ => rfl)
    exact nomatch hheld.mp rfl

end Traffic

end ZWaveHost
