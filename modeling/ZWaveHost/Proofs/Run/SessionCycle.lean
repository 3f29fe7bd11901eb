/-
  ZWaveHost.Proofs.Run.SessionCycle — session ids go round from 1 to 255.

  A host keeps the last id that it has handed out.  Nothing but a call for the
  next one touches it (`lastSession_after`), so the ids of a run are counted by
  the calls alone, whoever makes them and whatever happens between them.  The
  invariant of a run is `Cycled`: the ids so far are those of the calls in order,
  and the id kept is the last of them.

  Main statement: the n-th call gets (n-1) mod 255 + 1, so no id is 0 and no sum
  runs over, and 255 calls in a row get all other ids once each
  (`session_ids_cycle`).
-/
import Mathlib.Data.List.Nodup
import ZWaveHost.Proofs.Run.Bystander
import ZWaveHost.Proofs.Run.Chunk
import ZWaveHost.Proofs.Run.History

namespace ZWaveHost

/-! ## §1. The ids in their order -/

/-- The id of a call before which there were so many. -/
def sessionAt (calls : Nat) : UInt8 := UInt8.ofNat (calls % 255 + 1)

theorem toNat_sessionAt (calls : Nat) : (sessionAt calls).toNat = calls % 255 + 1 := by
  rw [sessionAt, UInt8.toNat_ofNat']
  omega

theorem sessionAt_ne_zero (calls : Nat) : sessionAt calls ≠ 0 := by
  intro hzero
  have hnat := congrArg UInt8.toNat hzero
  rw [toNat_sessionAt] at hnat
  exact absurd hnat (Nat.succ_ne_zero _)

/-- The ids of 255 calls in a row. -/
def sessionRound (first : Nat) : List UInt8 := (List.range' first 255).map sessionAt

/-- **No two of 255 calls in a row get the same id.** -/
theorem nodup_sessionRound (first : Nat) : (sessionRound first).Nodup := by
  refine List.Nodup.map_on ?_ List.nodup_range'
  intro i hi j hj heq
  rw [List.mem_range'_1] at hi hj
  have hrest := congrArg UInt8.toNat heq
  rw [toNat_sessionAt, toNat_sessionAt] at hrest
  omega

/-- **They get every id but 0.** -/
theorem mem_sessionRound_iff {first : Nat} {id : UInt8} :
    id ∈ sessionRound first ↔ id ≠ 0 := by
  rw [sessionRound, List.mem_map]
  constructor
  · rintro ⟨call, -, rfl⟩
    exact sessionAt_ne_zero call
  · intro hid
    have hpos : id.toNat ≠ 0 := fun hzero => hid (UInt8.toNat_inj.mp hzero)
    have hlt := id.toNat_lt
    -- the call is as far into the round as the id is ahead of the first one
    refine ⟨first + (id.toNat + 254 - first % 255) % 255, ?_, ?_⟩
    · rw [List.mem_range'_1]
      omega
    · apply UInt8.toNat_inj.mp
      rw [toNat_sessionAt]
      omega

/-- The ids are those of the calls in order, from the first one on. -/
def InRound (ids : List UInt8) : Prop := ids = (List.range ids.length).map sessionAt

namespace InRound

variable {ids : List UInt8}

/-- One more id. -/
theorem concat (hids : InRound ids) : InRound (ids ++ [sessionAt ids.length]) := by
  unfold InRound at hids ⊢
  rw [List.length_append, List.length_singleton, List.range_succ, List.map_append, ← hids]
  rfl

/-- The n-th call gets the n-th id. -/
theorem getElem? (hids : InRound ids) {n : Nat} (hfirst : 1 ≤ n) (hn : n ≤ ids.length) :
    ids[n - 1]?.map UInt8.toNat = some ((n - 1) % 255 + 1) := by
  have hlt : n - 1 < ids.length := by omega
  have hat : ids[n - 1]? = some (sessionAt (n - 1)) := by
    rw [hids, List.getElem?_map, List.getElem?_range hlt]
    rfl
  rw [hat, Option.map_some, toNat_sessionAt]

theorem ne_zero (hids : InRound ids) {id : UInt8} (hid : id ∈ ids) : id ≠ 0 := by
  rw [hids, List.mem_map] at hid
  obtain ⟨calls, -, rfl⟩ := hid
  exact sessionAt_ne_zero calls

/-- 255 calls in a row get a whole round. -/
theorem take_drop (hids : InRound ids) {first : Nat} (hlength : first + 255 ≤ ids.length) :
    (ids.drop first).take 255 = sessionRound first := by
  rw [hids, sessionRound, ← List.map_drop, ← List.map_take, List.range_eq_range',
    List.drop_range', List.take_range'_of_length_ge (by omega)]
  congr 2
  omega

end InRound

/-! ## §2. Hosts -/

namespace Host

/-- The sum is made only where it does not run over. -/
theorem toNat_nextSession (h : Host) :
    h.nextSession.1.toNat = if h.lastSession = 255 then 1 else h.lastSession.toNat + 1 := by
  unfold nextSession
  dsimp only
  by_cases hlast : h.lastSession = 255
  · rw [if_pos hlast, if_pos hlast]
    rfl
  · rw [if_neg hlast, if_neg hlast, UInt8.toNat_add]
    have hne : h.lastSession.toNat ≠ 255 := fun heq => hlast (UInt8.toNat_inj.mp heq)
    have hlt := h.lastSession.toNat_lt
    show (h.lastSession.toNat + 1) % 256 = h.lastSession.toNat + 1
    omega

/-- The id that a host keeps after so many calls. -/
def Counts (h : Host) (calls : Nat) : Prop :=
  h.lastSession.toNat = if calls = 0 then 0 else (calls - 1) % 255 + 1

/-- **One more call** gets the id after the last one, and the host keeps it. -/
theorem Counts.next {h : Host} {calls : Nat} (hcounts : h.Counts calls) :
    h.nextSession.1 = sessionAt calls ∧ h.nextSession.2.Counts (calls + 1) := by
  have hid : h.nextSession.1.toNat = calls % 255 + 1 := by
    rw [toNat_nextSession]
    unfold Counts at hcounts
    by_cases hlast : h.lastSession = 255
    · have hfull : h.lastSession.toNat = 255 := congrArg UInt8.toNat hlast
      rw [if_pos hlast]
      split at hcounts <;> omega
    · have hne : h.lastSession.toNat ≠ 255 := fun heq => hlast (UInt8.toNat_inj.mp heq)
      rw [if_neg hlast]
      split at hcounts <;> omega
  constructor
  · apply UInt8.toNat_inj.mp
    rw [hid, toNat_sessionAt]
  · show h.nextSession.1.toNat = _
    rw [hid, if_neg (Nat.succ_ne_zero calls)]
    rfl

end Host

/-! ## §3. Events -/

/-- Whether a caller asks for a session id. -/
def Event.asksForSession {π : Type} : Event π → Bool
  | .nextSession => true
  | _ => false

namespace Moment

variable {π : Type} [Port π]

/-- The session ids that are handed out at an event. -/
def sessionIds (m : Moment π) (event : Event π) : List UInt8 :=
  if event.asksForSession then [m.host.nextSession.1] else []

theorem lastSession_look (m : Moment π) : (m.after .look).host.lastSession = m.host.lastSession := by
  obtain ⟨_, _, hmover⟩ := m.host.mover_eq
  cases hmove : m.host.nextMove? m.now with
  | none => rw [(look_of_none hmove).1]
  | some next =>
    obtain ⟨e, move⟩ := next
    rw [(look_of_nextMove hmove).1]
    cases move with
    | rest =>
      show m.host.mover.lastSession = _
      rw [hmover]
    | transmit s =>
      show m.host.mover.lastSession = _
      rw [hmover]
    | finish result =>
      obtain ⟨_, _, heq⟩ := Adapter.conclude_eq m.host.left e result
      show (Adapter.conclude m.host.left e result).lastSession = _
      rw [heq]
      show m.host.mover.lastSession = _
      rw [hmover]

/-- **Only a call for the next id changes the last one**: no start and no stop does,
    no frame and no caller's step. -/
theorem lastSession_after (m : Moment π) {event : Event π} (hother : event.asksForSession = false) :
    (m.after event).host.lastSession = m.host.lastSession := by
  cases event with
  | nextSession => cases hother
  | receive bytes =>
    obtain ⟨_, _, _, _, heq⟩ := m.adapter.receive_host_eq bytes
    show (m.adapter.receive bytes).host.lastSession = m.adapter.host.lastSession
    rw [heq]
  | look => exact m.lastSession_look
  | stop => exact m.kept_stop.2
  | _ => exact (m.kept_after (by trivial)).2 nofun

/-! ## §4. Runs -/

/-- The ids handed out so far are those of the calls in order, and the host has
    counted the calls. -/
structure Cycled (ids : List UInt8) (m : Moment π) : Prop where
  inRound : InRound ids
  counts : m.host.Counts ids.length

/-- **Every event goes on with the round**, or leaves it where it is. -/
theorem Cycled.after {ids : List UInt8} {m : Moment π} (hm : m.Cycled ids) (event : Event π) :
    (m.after event).Cycled (ids ++ m.sessionIds event) := by
  cases hasks : event.asksForSession with
  | false =>
    have hnone : m.sessionIds event = [] := by simp [sessionIds, hasks]
    rw [hnone, List.append_nil]
    refine ⟨hm.inRound, ?_⟩
    show (m.after event).host.lastSession.toNat = _
    rw [m.lastSession_after hasks]
    exact hm.counts
  | true =>
    cases event <;> try cases hasks
    obtain ⟨hid, hcounts⟩ := hm.counts.next
    have hone : m.sessionIds .nextSession = [sessionAt ids.length] := by
      show [m.host.nextSession.1] = _
      rw [hid]
    rw [hone]
    refine ⟨hm.inRound.concat, ?_⟩
    rw [List.length_append]
    exact hcounts

omit [Port π] in
theorem cycled_new (now : Nat) (port : π) (config : Config) (valid : config.Valid)
    (registry : Registry) : (new now port config valid registry).Cycled [] := ⟨rfl, rfl⟩

/-- **Every run of a new adapter** goes round in this order. -/
theorem cycled_run (now : Nat) (port : π) (config : Config) (valid : config.Valid)
    (registry : Registry) (events : List (Event π)) :
    ((new now port config valid registry).run events).Cycled
      ((new now port config valid registry).notes sessionIds events) :=
  run_induction (P := fun ids m => m.Cycled ids) (fun _ _ event h => h.after event) events
    (cycled_new now port config valid registry)

/-- As many ids are handed out as there are calls. -/
theorem length_sessionIds (m : Moment π) (events : List (Event π)) :
    (m.notes sessionIds events).length = events.countP Event.asksForSession := by
  induction events generalizing m with
  | nil => rfl
  | cons event rest ih =>
    show (m.sessionIds event ++ (m.after event).notes sessionIds rest).length = _
    rw [List.length_append, ih, List.countP_cons, sessionIds]
    split
    · exact Nat.add_comm _ _
    · exact Nat.zero_add _

end Moment

/-- **Session ids go round from 1 to 255.**  Make an adapter, and let anything happen
    to it in any order, starts and stops included.  There are as many ids as calls, and
    the n-th call gets (n-1) mod 255 + 1.  So 0 is never handed out, and the id after
    the last one is 1 behind 255 and else their true sum, with nothing carried over.
    Any 255 calls in a row get 255 different ids, which are all there are but 0. -/
theorem session_ids_cycle {π : Type} [Port π] (now : Nat) (port : π) (config : Config)
    (valid : config.Valid) (registry : Registry) (events : List (Event π)) :
    let first := Moment.new now port config valid registry
    let ids := first.notes Moment.sessionIds events
    let last := (first.run events).host.lastSession
    ids.length = events.countP Event.asksForSession
      ∧ (∀ n, 1 ≤ n → n ≤ ids.length → ids[n - 1]?.map UInt8.toNat = some ((n - 1) % 255 + 1))
      ∧ (∀ id ∈ ids, id ≠ 0)
      ∧ (first.run events).host.nextSession.1.toNat = (if last = 255 then 1 else last.toNat + 1)
      ∧ ∀ start, start + 255 ≤ ids.length →
        ((ids.drop start).take 255).Nodup ∧ ∀ id, id ∈ (ids.drop start).take 255 ↔ id ≠ 0 := by
  intro first ids last
  have hids : InRound ids :=
    (Moment.cycled_run now port config valid registry events).inRound
  refine ⟨first.length_sessionIds events, fun n => hids.getElem?, fun id => hids.ne_zero,
    Host.toNat_nextSession _, ?_⟩
  intro start hlength
  rw [hids.take_drop hlength]
  exact ⟨nodup_sessionRound start, fun id => mem_sessionRound_iff⟩

/-- Two hundred calls before a stop and a hundred behind the next start: the ids go on
    where they were, and the round that begins with the 45th call is whole. -/
theorem session_ids_cycle_over_stop :
    let calls (count : Nat) : List (Event ScriptedPort) := List.replicate count .nextSession
    let events := .start :: calls 200 ++ [.stop, .start] ++ calls 100
    let first : Moment ScriptedPort := .new 0 {} .default Config.valid_default .standard
    let ids := first.notes Moment.sessionIds events
    ids.length = 300 ∧ ids[254]?.map UInt8.toNat = some 255 ∧ ids[255]?.map UInt8.toNat = some 1
      ∧ ((ids.drop 45).take 255).Nodup ∧ 7 ∈ (ids.drop 45).take 255 := by
  intro calls events first ids
  obtain ⟨hlength, hids, -, -, hround⟩ :=
    session_ids_cycle 0 ({} : ScriptedPort) .default Config.valid_default .standard events
  have hcount : ids.length = 300 := by
    rw [show ids.length = events.countP Event.asksForSession from hlength]
    simp only [events, calls, List.cons_append, List.countP_cons, List.countP_append,
      List.countP_replicate, List.countP_nil, Event.asksForSession]
    rfl
  have hlast : 255 ≤ ids.length := by omega
  have hagain : 256 ≤ ids.length := by omega
  obtain ⟨hnodup, hall⟩ := hround 45 (Nat.le_of_eq hcount.symm)
  exact ⟨hcount, hids 255 (by decide) hlast, hids 256 (by decide) hagain, hnodup,
    (hall 7).mpr (by decide)⟩

end ZWaveHost
