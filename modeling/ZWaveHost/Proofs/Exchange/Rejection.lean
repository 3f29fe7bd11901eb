/-
  ZWaveHost.Proofs.Exchange.Rejection — what a rejection can do to a wait.

  A NAK or CAN that counts leaves a permit for whoever waits, and the permit
  may outlive what it was for: the ACK may have overtaken the rejection, the
  request may have been sent again, or the exchange may be over.  A wait is
  cut short if its caller does what it would not do without the permit
  (`Host.CutShort`).

  What happens to waits is marked in a log: transmissions, rejections that
  count, answers that are taken, and waits that are cut short.  The log knows
  what the caller will find when it looks up (`Waits`): a rejection beyond
  those seen at the last transmission is marked behind it, and where an
  answer is marked behind it the ACK is no longer waited for.

  Main fact: whatever happens in whatever order, a wait is cut short by a
  rejection that was counted since its transmission and that no answer has
  overtaken, by nothing else, and at most once for each transmission; and the
  deadline of a wait is a timeout after its transmission, whatever else
  happens (`rejection_cuts_once`).
-/
import ZWaveHost.Proofs.Exchange.Course
import ZWaveHost.Proofs.Run.Invariant

namespace ZWaveHost

open Adapter

/-! ## §1. Waits that are cut short -/

namespace Host

/-- The caller whose turn it is does what it would not do if no rejection
    were to be noticed. -/
def CutShort (now : Nat) (h : Host) (x : Exchange) : Prop :=
  h.move now x ≠ (notice h).move now x

instance (now : Nat) (h : Host) (x : Exchange) : Decidable (h.CutShort now x) :=
  inferInstanceAs (Decidable (_ ≠ _))

variable {h : Host} {now : Nat} {x : Exchange}

/-- A caller that finds a permit and a fresh rejection sends its request once more. -/
theorem move_of_fresh {s : Sequence} (hs : h.inFlight = some s) (hopen : isSignalled s = false)
    (hpermit : h.permit = true) (hfresh : isFresh h x s = true) :
    h.move now x = s.retry.attemptMove := by
  unfold Host.move
  rw [hs]
  dsimp only
  rw [hopen, hpermit, hfresh]
  rfl

/-- **A wait is cut short by a fresh rejection only**, and its request is to be
    sent once more. -/
theorem CutShort.cause (hcut : h.CutShort now x) :
    ∃ s, h.inFlight = some s ∧ isSignalled s = false ∧ isFresh h x s = true
      ∧ h.move now x = s.retry.attemptMove := by
  unfold CutShort Host.move at hcut
  have hsame : (notice h).inFlight = h.inFlight := rfl
  rw [hsame] at hcut
  cases hs : h.inFlight with
  | none =>
    rw [hs] at hcut
    exact absurd rfl hcut
  | some s =>
    rw [hs] at hcut
    dsimp only at hcut
    by_cases hsignalled : isSignalled s = true
    · rw [if_pos hsignalled, if_pos hsignalled] at hcut
      exact absurd rfl hcut
    rw [if_neg hsignalled, if_neg hsignalled] at hcut
    -- only this test looks at the permit
    by_cases hfresh : (h.permit && isFresh h x s) = true
    · have hopen := Bool.eq_false_iff.mpr hsignalled
      obtain ⟨hpermit, hfresh⟩ := Bool.and_eq_true_iff.mp hfresh
      exact ⟨s, rfl, hopen, hfresh, move_of_fresh hs hopen hpermit hfresh⟩
    · rw [if_neg hfresh] at hcut
      exact absurd rfl hcut

/-- Without the permit, a caller waits on until its deadline. -/
theorem move_notice {s : Sequence} (hs : h.inFlight = some s) (hopen : isSignalled s = false)
    (hearly : now < x.deadline) : (notice h).move now x = .rest := by
  have hs' : (notice h).inFlight = some s := hs
  unfold Host.move
  rw [hs']
  dsimp only
  rw [hopen]
  exact if_neg (Nat.not_le.mpr hearly)

/-- A caller that waits on has found no fresh rejection, if these leave a permit. -/
theorem not_fresh_of_rest {s : Sequence} (hs : h.inFlight = some s)
    (hrest : h.move now x = .rest) (hpermit : isFresh h x s = true → h.permit = true) :
    isFresh h x s = false := by
  cases hfresh : isFresh h x s with
  | false => rfl
  | true =>
    exfalso
    cases hopen : isSignalled s with
    | true =>
      -- the signal would have called it away
      unfold Host.move at hrest
      rw [hs] at hrest
      dsimp only at hrest
      rw [hopen] at hrest
      cases hrest
    | false =>
      rw [move_of_fresh hs hopen (hpermit hfresh) hfresh] at hrest
      exact s.retry.attemptMove_ne_rest hrest

/-- **A fresh rejection cuts a wait short**, if there is a permit. -/
theorem cutShort_of_fresh {s : Sequence} (hs : h.inFlight = some s)
    (hopen : isSignalled s = false) (hearly : now < x.deadline) (hpermit : h.permit = true)
    (hfresh : isFresh h x s = true) : h.CutShort now x := by
  unfold CutShort
  rw [move_of_fresh hs hopen hpermit hfresh, move_notice hs hopen hearly]
  exact s.retry.attemptMove_ne_rest

end Host

/-! ## §2. The log -/

/-- What a run is remembered by, as far as waits are concerned. -/
inductive Mark where
  /-- A request was handed to the link. -/
  | sent (now : Nat)
  /-- A NAK or CAN was counted. -/
  | rejected
  /-- The request in flight took an ACK or a response. -/
  | answered
  /-- A wait was cut short. -/
  | cutShort
  deriving DecidableEq

/-- What a frame is remembered by. -/
def Host.marks (h : Host) (frame : Frame) : List Mark :=
  if h.counts frame then [.rejected] else if h.takes frame then [.answered] else []

/-- What a move is remembered by. -/
def Move.marks (now : Nat) : Move → List Mark
  | .transmit _ => [.sent now]
  | _ => []

/-- What is marked since the last transmission, once this is marked too. -/
def Mark.since (marks : List Mark) : Mark → List Mark
  | .sent _ => []
  | mark => marks ++ [mark]

/-- What is marked in a log since the last transmission. -/
def sinceSent (log : List Mark) : List Mark := log.foldl Mark.since []

/-- When a request was sent. -/
def Mark.sentAt? : Mark → Option Nat
  | .sent now => some now
  | _ => none

/-- When a request was last sent. -/
def lastSent? (log : List Mark) : Option Nat := (log.filterMap Mark.sentAt?).getLast?

theorem sinceSent_append (log : List Mark) (mark : Mark) :
    sinceSent (log ++ [mark]) = mark.since (sinceSent log) :=
  List.foldl_append

/-- Any other mark than a transmission is one more since the last of them. -/
theorem sinceSent_append_plain {mark : Mark} (hplain : mark.sentAt? = none) (log : List Mark) :
    sinceSent (log ++ [mark]) = sinceSent log ++ [mark] := by
  rw [sinceSent_append]
  cases mark with
  | sent now => cases hplain
  | _ => rfl

theorem mem_sinceSent_append {mark other : Mark} (hplain : mark.sentAt? = none)
    (log : List Mark) :
    other ∈ sinceSent (log ++ [mark]) ↔ other ∈ sinceSent log ∨ other = mark := by
  rw [sinceSent_append_plain hplain, List.mem_append, List.mem_singleton]

theorem not_mem_sinceSent_append {mark other : Mark} {log : List Mark}
    (hplain : mark.sentAt? = none) (hother : other ≠ mark) (hnone : other ∉ sinceSent log) :
    other ∉ sinceSent (log ++ [mark]) := by
  rw [mem_sinceSent_append hplain]
  exact not_or.mpr ⟨hnone, hother⟩

theorem lastSent?_append_sent (log : List Mark) (now : Nat) :
    lastSent? (log ++ [.sent now]) = some now := by
  unfold lastSent?
  rw [List.filterMap_append]
  exact List.getLast?_concat

theorem lastSent?_append {mark : Mark} (hother : mark.sentAt? = none) (log : List Mark) :
    lastSent? (log ++ [mark]) = lastSent? log := by
  unfold lastSent?
  rw [List.filterMap_append, List.filterMap_cons_none hother]
  rw [List.filterMap_nil, List.append_nil]

/-- How many rejections have been counted since the last transmission. -/
def rejectionsSince (log : List Mark) : Nat := (sinceSent log).count .rejected

/-- A rejection has been counted since the last transmission; no answer has
    been taken since, and no wait has been cut short. -/
structure Rejected (log : List Mark) : Prop where
  counted : .rejected ∈ sinceSent log
  unanswered : .answered ∉ sinceSent log
  first : .cutShort ∉ sinceSent log

/-- Every wait in a log that was cut short had been rejected. -/
def CutsRejected (log : List Mark) : Prop :=
  ∀ before, before ++ [.cutShort] <+: log → Rejected before

namespace CutsRejected

theorem nil : CutsRejected [] := by
  intro before hprefix
  have hlength := hprefix.length_le
  simp at hlength

theorem append {log : List Mark} {mark : Mark} (hlog : CutsRejected log)
    (hmark : mark = .cutShort → Rejected log) : CutsRejected (log ++ [mark]) := by
  intro before hprefix
  rcases List.prefix_concat_iff.mp hprefix with hwhole | hearlier
  · obtain ⟨rfl, hlast⟩ := List.append_inj' hwhole rfl
    exact hmark (List.singleton_inj.mp hlast).symm
  · exact hlog before hearlier

end CutsRejected

/-! ## §3. What a caller knows -/

/-- What the log says of the exchange whose turn it is. -/
structure Waits (log : List Mark) (h : Host) (x : Exchange) : Prop where
  deadline : ∃ sent, lastSent? log = some sent ∧ x.deadline = sent + h.config.timeout
  counted : h.rejections = x.rejectionsSeen + .ofNat (rejectionsSince log)
  answered : .answered ∈ sinceSent log → ∀ s, h.inFlight = some s → s.state ≠ .waitingForAck
  /-- A fresh rejection has not been noticed. -/
  permit : ∀ s, h.inFlight = some s → isFresh h x s = true → h.permit = true
  uncut : .cutShort ∉ sinceSent log

namespace Waits

variable {log : List Mark} {h h' : Host} {x : Exchange}

theorem of_agrees (hw : Waits log h x) (ha : h.Agrees h')
    (hpermit : ∀ s, h.inFlight = some s → isFresh h x s = true → h'.permit = true) :
    Waits log h' x where
  deadline := by rw [ha.config]; exact hw.deadline
  counted := by rw [ha.rejections]; exact hw.counted
  answered := by rw [ha.inFlight]; exact hw.answered
  permit := by
    rw [ha.inFlight]
    unfold isFresh
    rw [ha.rejections]
    exact hpermit
  uncut := hw.uncut

/-- What has failed is not to be sent again. -/
theorem failInFlight (hw : Waits log h x) : Waits log (failInFlight h) x := by
  have hover : ∀ t, (Adapter.failInFlight h).inFlight = some t → t.state ≠ .waitingForAck := by
    intro t ht
    obtain ⟨s, _, rfl⟩ := Option.map_eq_some_iff.mp ht
    rw [Sequence.fail, Sequence.enter_state]
    decide
  exact {
    deadline := hw.deadline
    counted := hw.counted
    answered := fun _ => hover
    permit := fun t ht hfresh => absurd (isFresh_eq_true_iff.mp hfresh).2 (hover t ht)
    uncut := hw.uncut }

/-- The caller has not seen what has been marked, unless there are so many
    rejections that the count comes round. -/
theorem rejections_ne (hw : Waits log h x) (hrejected : 0 < rejectionsSince log)
    (hround : rejectionsSince log < UInt64.size) : h.rejections ≠ x.rejectionsSeen := by
  intro hsame
  rw [hw.counted] at hsame
  have hzero : UInt64.ofNat (rejectionsSince log) = 0 := by simpa using hsame
  have hnone : rejectionsSince log = 0 := by
    rw [← UInt64.toNat_ofNat_of_lt' hround, hzero]
    rfl
  omega

theorem mem_of_rejections_ne (hw : Waits log h x) (hne : h.rejections ≠ x.rejectionsSeen) :
    .rejected ∈ sinceSent log := by
  by_contra hnone
  have hzero : rejectionsSince log = 0 := List.count_eq_zero.mpr hnone
  apply hne
  rw [hw.counted, hzero]
  exact UInt64.add_zero _

/-- **What cuts a wait short has been marked.** -/
theorem rejected_of_cutShort {now : Nat} (hw : Waits log h x) (hcut : h.CutShort now x) :
    Rejected log ∧ ∃ s, h.inFlight = some s ∧ s.state = .waitingForAck := by
  obtain ⟨s, hs, _, hfresh, _⟩ := hcut.cause
  obtain ⟨hne, hstate⟩ := isFresh_eq_true_iff.mp hfresh
  refine ⟨⟨hw.mem_of_rejections_ne hne, ?_, hw.uncut⟩, s, hs, hstate⟩
  -- an answer would have led out of the wait for the ACK
  intro hanswered
  exact hw.answered hanswered s hs hstate

/-- **What has been marked cuts the wait short**, if its request still waits
    for the ACK. -/
theorem cutShort_of_rejected {now : Nat} {s : Sequence} (hw : Waits log h x)
    (hs : h.inFlight = some s) (hopen : isSignalled s = false) (hearly : now < x.deadline)
    (hstate : s.state = .waitingForAck) (hrejected : 0 < rejectionsSince log)
    (hround : rejectionsSince log < UInt64.size) : h.CutShort now x := by
  have hfresh : isFresh h x s = true :=
    isFresh_eq_true_iff.mpr ⟨hw.rejections_ne hrejected hround, hstate⟩
  exact Host.cutShort_of_fresh hs hopen hearly (hw.permit s hs hfresh) hfresh

/-- A transmission begins a wait of which nothing is marked. -/
theorem of_sent (h : Host) (e : Errand) (inFlight : Option Sequence) (log : List Mark)
    (now : Nat) (outbox : List Report) :
    let x : Exchange := ⟨e, h.rejections, now + h.config.timeout⟩
    Waits (log ++ [.sent now])
      { h with inFlight := inFlight, active := some x, outbox := outbox } x := by
  have hnothing : sinceSent (log ++ [.sent now]) = [] := sinceSent_append log _
  exact {
    deadline := ⟨now, lastSent?_append_sent log now, rfl⟩
    counted := by
      unfold rejectionsSince
      rw [hnothing]
      exact (UInt64.add_zero _).symm
    answered := by rw [hnothing]; exact fun hmem => absurd hmem List.not_mem_nil
    permit := fun _ _ hfresh => absurd rfl (isFresh_eq_true_iff.mp hfresh).1
    uncut := by rw [hnothing]; exact List.not_mem_nil }

end Waits

/-! ## §4. Frames -/

variable {π : Type} [Port π]

namespace Waits

variable {log : List Mark} {h : Host} {x : Exchange}

/-- What is in flight after a frame has past the wait for the ACK, if it had
    before or if the frame is taken. -/
theorem answered_accept (frame : Frame) (l : Link π)
    (hpast : ∀ s, h.inFlight = some s → s.state ≠ .waitingForAck ∨ h.takes frame = true) :
    ∀ t, (Host.accept frame (l, h)).2.inFlight = some t → t.state ≠ .waitingForAck := by
  intro t ht
  cases hs : h.inFlight with
  | none =>
    rw [Host.accept_inFlight_none frame l hs] at ht
    cases ht
  | some s =>
    obtain ⟨t', ht', hears⟩ := Host.accept_hears frame l hs
    obtain rfl : t' = t := Option.some.inj (ht'.symm.trans ht)
    exact hears.state_ne (hpast s hs)

/-- A rejection that is fresh after a frame was fresh before, or is that frame. -/
theorem permit_accept (hw : Waits log h x) (frame : Frame) (l : Link π) :
    ∀ t, (Host.accept frame (l, h)).2.inFlight = some t →
      isFresh (Host.accept frame (l, h)).2 x t = true →
      (Host.accept frame (l, h)).2.permit = true := by
  intro t ht hfresh
  obtain ⟨hne, hstate⟩ := isFresh_eq_true_iff.mp hfresh
  obtain ⟨_, _, heq⟩ := Host.accept_counts_eq frame l h
  have hpermit : (Host.accept frame (l, h)).2.permit = (h.permit || h.counts frame) := by rw [heq]
  rw [hpermit]
  cases hcounts : h.counts frame with
  | true => exact Bool.or_true _
  | false =>
    rw [Bool.or_false]
    have hsame : (Host.accept frame (l, h)).2.rejections = h.rejections := by
      rw [heq, hcounts]
      exact UInt64.add_zero _
    rw [hsame] at hne
    cases hs : h.inFlight with
    | none =>
      rw [Host.accept_inFlight_none frame l hs] at ht
      cases ht
    | some s =>
      obtain ⟨t', ht', hears⟩ := Host.accept_hears frame l hs
      obtain rfl : t' = t := Option.some.inj (ht'.symm.trans ht)
      -- no frame leads back to the wait for the ACK
      have hbefore : s.state = .waitingForAck := by
        by_contra hother
        exact hears.state_ne (.inl hother) hstate
      exact hw.permit s hs (isFresh_eq_true_iff.mpr ⟨hne, hbefore⟩)

/-- **A frame leaves the caller waiting**, and what it does to the wait is marked. -/
theorem accept (hw : Waits log h x) (frame : Frame) (l : Link π) :
    Waits (log ++ h.marks frame) (Host.accept frame (l, h)).2 x := by
  obtain ⟨_, _, heq⟩ := Host.accept_counts_eq frame l h
  have hcount : (Host.accept frame (l, h)).2.rejections
      = h.rejections + if h.counts frame then 1 else 0 := by rw [heq]
  have hdeadline : ∃ sent, lastSent? log = some sent
      ∧ x.deadline = sent + (Host.accept frame (l, h)).2.config.timeout := by
    rw [heq]
    exact hw.deadline
  have hpermit := hw.permit_accept frame l
  have hstays : .answered ∈ sinceSent log →
      ∀ t, (Host.accept frame (l, h)).2.inFlight = some t → t.state ≠ .waitingForAck :=
    fun hanswered => answered_accept frame l fun s hs => .inl (hw.answered hanswered s hs)
  unfold Host.marks
  -- a frame that counts is no answer, for a rejection leaves the sequence alone
  by_cases hcounts : h.counts frame = true
  · rw [if_pos hcounts]
    constructor
    case deadline => rw [lastSent?_append rfl]; exact hdeadline
    case counted =>
      unfold rejectionsSince
      rw [sinceSent_append_plain rfl, List.count_append, UInt64.ofNat_add, hcount, if_pos hcounts,
        hw.counted, UInt64.add_assoc]
      rfl
    case answered =>
      rw [mem_sinceSent_append rfl]
      rintro (hearlier | hlast)
      · exact hstays hearlier
      · cases hlast
    case permit => exact hpermit
    case uncut => exact not_mem_sinceSent_append rfl nofun hw.uncut
  rw [if_neg hcounts]
  rw [if_neg hcounts, UInt64.add_zero] at hcount
  by_cases htakes : h.takes frame = true
  · -- what was counted before still is; the way back to the ACK is barred from now on
    rw [if_pos htakes]
    constructor
    case deadline => rw [lastSent?_append rfl]; exact hdeadline
    case counted =>
      unfold rejectionsSince
      rw [sinceSent_append_plain rfl, List.count_append, hcount]
      exact hw.counted
    case answered => exact fun _ => answered_accept frame l fun _ _ => .inr htakes
    case permit => exact hpermit
    case uncut => exact not_mem_sinceSent_append rfl nofun hw.uncut
  · -- nothing is marked
    rw [if_neg htakes, List.append_nil]
    exact ⟨hdeadline, hcount.trans hw.counted, hstays, hpermit, hw.uncut⟩

end Waits

/-! ## §5. Events -/

/-- A wait that is cut short is remembered, if there is one. -/
def Host.cut (now : Nat) (h : Host) : List Mark :=
  if h.active.any fun x => h.CutShort now x then [.cutShort] else []

/-- What an event is remembered by. -/
def Moment.marks (m : Moment π) : Event π → List Mark
  | .receive bytes => m.adapter.noted Host.marks bytes
  | .look =>
    match m.host.nextMove? m.now with
    | some (_, move) => m.host.cut m.now ++ move.marks m.now
    | none => []
  | _ => []

/-- Whoever waits on has not been cut short. -/
theorem Host.cut_of_rest {h : Host} {now : Nat} {x : Exchange} {e : Errand}
    (hx : h.active = some x) (hnext : h.nextMove? now = some (e, .rest)) : h.cut now = [] := by
  refine if_neg ?_
  rw [hx, Option.any_some, decide_eq_true_eq]
  intro hshort
  obtain ⟨s, _, _, _, hmove⟩ := hshort.cause
  rw [(nextMove?_of_active hx hnext).2.symm] at hmove
  exact s.retry.attemptMove_ne_rest hmove.symm

/-- The log accounts for every wait that was cut short, and for the present one. -/
structure Accounted (log : List Mark) (h : Host) : Prop where
  cuts : CutsRejected log
  waits : ∀ x, h.active = some x → Waits log h x

namespace Accounted

variable {log : List Mark} {m : Moment π}

omit [Port π] in
/-- Of a new adapter there is nothing to account for. -/
theorem new (now : Nat) (port : π) (config : Config) (valid : config.Valid)
    (registry : Registry) :
    Accounted [] (Moment.new now port config valid registry).host where
  cuts := .nil
  waits := by
    intro x hx
    cases hx

/-- No frame marks a wait as cut short. -/
theorem accept {h : Host} (ha : Accounted log h) (frame : Frame) (l : Link π) :
    Accounted (log ++ h.marks frame) (Host.accept frame (l, h)).2 where
  cuts := by
    unfold Host.marks
    split
    · exact ha.cuts.append nofun
    split
    · exact ha.cuts.append nofun
    · rw [List.append_nil]
      exact ha.cuts
  waits := by
    intro x hx
    obtain ⟨_, _, _, _, heq⟩ := Host.accept_eq frame l h
    rw [heq] at hx
    exact (ha.waits x hx).accept frame l

theorem receive (ha : Accounted log m.host) (bytes : List UInt8) :
    Accounted (log ++ m.marks (.receive bytes)) (m.after (.receive bytes)).host :=
  Adapter.noted_induction (P := fun h log => Accounted log h) bytes ha
    fun frame l _ _ ha => ha.accept frame l

/-- A move is carried out: a transmission begins a wait, the end of an exchange
    leaves none, and else the wait goes on. -/
theorem perform {h : Host} (hcuts : CutsRejected log) (now : Nat) (e : Errand) (l : Link π)
    {move : Move} (hrest : move = .rest → ∀ x, h.active = some x → Waits log h x) :
    Accounted (log ++ move.marks now) (Adapter.perform now e ⟨l, h⟩ move).host := by
  cases move with
  | rest =>
    show Accounted (log ++ []) h
    rw [List.append_nil]
    exact ⟨hcuts, hrest rfl⟩
  | transmit s =>
    refine ⟨hcuts.append nofun, ?_⟩
    intro x hx
    obtain rfl := Option.some.inj hx
    exact Waits.of_sent h e _ log now _
  | finish result =>
    show Accounted (log ++ []) (conclude { h with active := none, inFlight := none } e result)
    rw [List.append_nil]
    refine ⟨hcuts, ?_⟩
    intro x hx
    rw [conclude_active] at hx
    cases hx

/-- **A wait that is cut short now has been rejected.** -/
theorem cuts_append {h : Host} (ha : Accounted log h) (now : Nat) :
    CutsRejected (log ++ h.cut now) := by
  unfold Host.cut
  split
  · next hcut =>
    obtain ⟨x, hx, hshort⟩ := (Option.any_eq_true _ _).mp hcut
    exact ha.cuts.append fun _ =>
      ((ha.waits x hx).rejected_of_cutShort (of_decide_eq_true hshort)).1
  · rw [List.append_nil]
    exact ha.cuts

theorem look (ha : Accounted log m.host) :
    Accounted (log ++ m.marks .look) (m.after .look).host := by
  unfold Moment.marks
  cases hnext : m.host.nextMove? m.now with
  | none =>
    show Accounted (log ++ []) _
    rw [List.append_nil, (Moment.look_of_none hnext).1]
    exact ha
  | some next =>
    obtain ⟨e, move⟩ := next
    show Accounted (log ++ (m.host.cut m.now ++ move.marks m.now)) _
    rw [(Moment.look_of_nextMove hnext).1, ← List.append_assoc]
    -- a cut is marked before the move that it leads to
    refine perform (ha.cuts_append m.now) m.now e m.adapter.link ?_
    intro hrest x hx
    rw [m.host.agrees_mover.active] at hx
    rw [hrest] at hnext
    rw [Host.cut_of_rest hx hnext, List.append_nil]
    have hw := ha.waits x hx
    refine hw.of_agrees m.host.agrees_mover ?_
    -- the permit is used up, but nothing fresh is left
    intro s hs hfresh
    have hmove := (Host.nextMove?_of_active hx hnext).2
    rw [Host.not_fresh_of_rest hs hmove.symm (hw.permit s hs)] at hfresh
    cases hfresh

theorem stop (ha : Accounted log m.host) : Accounted log (m.after .stop).host where
  cuts := ha.cuts
  waits := by
    intro x hx
    rcases m.agrees_stop with hagrees | hagrees
    · have hw := ha.waits x (hagrees.active.symm.trans hx)
      refine hw.of_agrees hagrees ?_
      rw [m.permit_stop]
      exact hw.permit
    · have hw := (ha.waits x (hagrees.active.symm.trans hx)).failInFlight
      refine hw.of_agrees hagrees ?_
      rw [m.permit_stop]
      exact hw.permit

/-- What happens beside an exchange is not marked. -/
theorem beside (ha : Accounted log m.host) {event : Event π} (hbystander : event.IsBystander) :
    Accounted log (m.after event).host where
  cuts := ha.cuts
  waits := by
    intro x hx
    obtain ⟨hactive, hspares⟩ := m.active_of_after hbystander hx
    have hw := ha.waits x hactive
    refine hw.of_agrees (m.agrees_after hactive hbystander hspares).1 ?_
    rw [m.permit_after hbystander]
    exact hw.permit

/-- **Every event keeps the log in accord with the host.** -/
theorem after (ha : Accounted log m.host) (event : Event π) :
    Accounted (log ++ m.marks event) (m.after event).host := by
  cases event with
  | receive bytes => exact ha.receive bytes
  | look => exact ha.look
  | stop =>
    show Accounted (log ++ []) _
    rw [List.append_nil]
    exact ha.stop
  | _ =>
    show Accounted (log ++ []) _
    rw [List.append_nil]
    exact ha.beside trivial

end Accounted

/-! ## §6. Runs -/

/-- A caller that is not cut short waits on, and at most the permit is used up. -/
theorem Moment.look_of_not_cutShort {m : Moment π} {x : Exchange} {s : Sequence}
    (hx : m.host.active = some x) (hs : m.host.inFlight = some s) (hopen : isSignalled s = false)
    (hearly : m.now < x.deadline) (huncut : ¬ m.host.CutShort m.now x) :
    (m.after .look).host = notice m.host := by
  by_cases hready : isReady m.now m.host x = true
  · have hattend : m.host.attend = notice m.host := by
      unfold Host.attend
      rw [hs, Option.all_some, hopen]
      rfl
    have hrest : m.host.move m.now x = .rest :=
      (Decidable.not_not.mp huncut).trans (Host.move_notice hs hopen hearly)
    rw [(Moment.look_of_ready hx hready).1, hrest, hattend]
    rfl
  · -- it does not even look up, for there is no permit
    have hnotReady := Bool.eq_false_iff.mpr hready
    rw [(Moment.look_of_not_ready hx hnotReady).1]
    unfold isReady at hnotReady
    simp only [Bool.or_eq_false_iff] at hnotReady
    unfold notice
    rw [← hnotReady.1.1]

/-- **A rejection cuts its own wait short, and that at most once.**  In
    whatever order chunks come in, callers look up and everything else
    happens, over any number of exchanges: a wait is cut short only if a
    rejection has been counted since its transmission, no ACK or response has
    been taken since, and no wait has been cut short since; the request still
    waits for its ACK then.  So each transmission leads to at most one more
    by way of rejections, and before the deadline it does so indeed, unless
    there are so many that the count comes round.  The wait ends a timeout
    after its transmission, however many rejections there are, and a caller
    that is not cut short waits on as before: at most the permit is used up.
    All of this holds at every look, since every beginning of a run is a run. -/
theorem rejection_cuts_once (now : Nat) (port : π) (config : Config) (valid : config.Valid)
    (registry : Registry) (events : List (Event π)) :
    let first := Moment.new now port config valid registry
    let log := first.notes Moment.marks events
    let m := first.run events
    CutsRejected log
    ∧ ∀ x, m.host.active = some x →
      (∃ sent, lastSent? log = some sent ∧ x.deadline = sent + config.timeout)
      ∧ (m.host.CutShort m.now x →
        Rejected log ∧ ∃ s, m.host.inFlight = some s ∧ s.state = .waitingForAck)
      ∧ ∀ s, m.host.inFlight = some s → isSignalled s = false → m.now < x.deadline →
        (s.state = .waitingForAck → 0 < rejectionsSince log → rejectionsSince log < UInt64.size →
          m.host.CutShort m.now x)
        ∧ (¬ m.host.CutShort m.now x → (m.after .look).host = notice m.host) := by
  intro first log m
  have ha : Accounted log m.host :=
    Moment.run_induction (P := fun log m => Accounted log m.host)
      (fun _ _ event ha => ha.after event) events (.new now port config valid registry)
  have hconfig : m.host.config = first.host.config := first.config_run events
  refine ⟨ha.cuts, ?_⟩
  intro x hx
  have hw := ha.waits x hx
  refine ⟨?_, hw.rejected_of_cutShort, ?_⟩
  · have hdeadline := hw.deadline
    rw [hconfig] at hdeadline
    exact hdeadline
  · intro s hs hopen hearly
    exact ⟨hw.cutShort_of_rejected hs hopen hearly, Moment.look_of_not_cutShort hx hs hopen hearly⟩

/-- The default settings, but a rejected request is sent again at once. -/
def Config.retransmitting : Config := { Config.default with retransmitOnNak := true }

theorem Config.valid_retransmitting : Config.retransmitting.Valid :=
  ⟨by decide, by decide, by decide⟩

/-- A request is rejected twice after five milliseconds and sent again; after
    two more, a rejection is overtaken by the ACK. -/
def rejectedThrice : List (Event ScriptedPort) :=
  [.start, .send .getNetworkIds, .look, .pass 5, .receive [0x15, 0x18], .look, .pass 2,
   .receive [0x15, 0x06]]

/-- Two rejections cut the wait short once, and the third one not at all: its
    caller waits on until a timeout after the second transmission. -/
theorem rejection_cuts_once_of_three :
    let first := Moment.new 0 {} .retransmitting Config.valid_retransmitting .standard
    let m := first.run rejectedThrice
    first.notes Moment.marks rejectedThrice
      = [.sent 0, .rejected, .rejected, .cutShort, .sent 5, .rejected, .answered]
    ∧ Rejected [.sent 0, .rejected, .rejected]
    ∧ ∃ x, m.host.active = some x ∧ x.deadline = 5 + 30000
      ∧ m.host.permit = true ∧ (m.after .look).host = notice m.host := by
  intro first m
  have hlog : first.notes Moment.marks rejectedThrice
      = [.sent 0, .rejected, .rejected, .cutShort, .sent 5, .rejected, .answered] := by
    decide
  obtain ⟨hcuts, hwaits⟩ := rejection_cuts_once 0 ({} : ScriptedPort) .retransmitting
    Config.valid_retransmitting .standard rejectedThrice
  have hcuts : CutsRejected (first.notes Moment.marks rejectedThrice) := hcuts
  rw [hlog] at hcuts
  refine ⟨hlog, hcuts [.sent 0, .rejected, .rejected] ⟨[.sent 5, .rejected, .answered], rfl⟩, ?_⟩
  have hactive : m.host.active.isSome = true := by decide
  have hopen : m.host.inFlight.any (fun s => !isSignalled s) = true := by decide
  obtain ⟨x, hx⟩ := Option.isSome_iff_exists.mp hactive
  obtain ⟨s, hs, hopen⟩ := (Option.any_eq_true _ _).mp hopen
  obtain ⟨⟨sent, hsent, hdeadline⟩, hcut, hstays⟩ := hwaits x hx
  have hsent : lastSent? (first.notes Moment.marks rejectedThrice) = some sent := hsent
  rw [hlog] at hsent
  obtain rfl : 5 = sent := Option.some.inj hsent
  have hearly : m.now < x.deadline := by
    rw [hdeadline]
    decide
  refine ⟨x, hx, hdeadline, by decide, (hstays s hs (by simpa using hopen) hearly).2 ?_⟩
  -- the ACK has overtaken the rejection
  intro hshort
  have hrejected : Rejected (first.notes Moment.marks rejectedThrice) := (hcut hshort).1
  rw [hlog] at hrejected
  exact hrejected.unanswered (by decide)

end ZWaveHost
