/-
  ZWaveHost.Proofs.Subscriptions.History — subscriptions over a whole history.

  A client makes and drops subscriptions and dispatches commands, and goes by what
  it is answered (`Client`).  A handler is a client too: it may do all of this while
  the dispatch that called it is under way, other dispatches included, and may look
  at everything that has happened so far.

  What a client does is written down moment by moment (`Client.run`), calls of
  handlers included, each with the subscriptions that there are after it.  A dispatch
  is named by its place in the history, so that its calls are told from those of the
  dispatches within it.

  Which subscriptions are live is read off the history alone (`live`): those that
  were made and whose handle was not dropped since.

  Main results:
    * `Leads.run` — a dispatch calls those who were there when it began.
    * `Kept.run` — the store holds the live subscriptions at every moment.
    * `subscriptions_answer_by_history` — what every client may count on.
-/
import ZWaveHost.Subscriptions
import Mathlib.Data.List.Nodup
import Mathlib.Data.List.Range

namespace ZWaveHost

namespace Subscriptions

/-! ## §1. Clients and what they do -/

/-- What happens to the subscriptions.  The calls and the end of a dispatch carry
    the place of its beginning in the history. -/
inductive Event where
  | subscribed (sub : Subscription)
  | unsubscribed (handle : Subscription.Handle) (found : Bool)
  | begun (c : Command)
  | called (dispatch : Nat) (handle : Subscription.Handle)
  | ended (dispatch : Nat) (count : Nat)

/-- An event and the subscriptions after it. -/
structure Moment where
  event : Event
  store : Subscriptions

/-- One who uses the subscriptions.  A subscription without a filter accepts every
    command.  The handlers that run in a dispatch do what `react` says; each is given
    its handle and the history so far. -/
inductive Client where
  | done
  | subscribe (kind : CommandKind) (accepts : Command → Bool)
      (next : Subscription.Handle → Client)
  | unsubscribe (handle : Subscription.Handle) (next : Bool → Client)
  | dispatch (c : Command) (react : Subscription.Handle → List Moment → Client)
      (next : Nat → Client)

/-- Writes an event down. -/
def note (event : Event) (s : Subscriptions × List Moment) : Subscriptions × List Moment :=
  (s.1, s.2 ++ [⟨event, s.1⟩])

/-- What a client makes of the subscriptions and of the history. -/
def Client.run : Client → Subscriptions × List Moment → Subscriptions × List Moment
  | .done, s => s
  | .subscribe kind accepts next, s =>
    let made := s.1.subscribe kind accepts
    (next made.1).run (note (.subscribed ⟨made.1, kind, accepts⟩) (made.2, s.2))
  | .unsubscribe handle next, s =>
    let removed := s.1.unsubscribe handle
    (next removed.1).run (note (.unsubscribed handle removed.1) (removed.2, s.2))
  | .dispatch c react next, s =>
    let ran := Subscriptions.dispatch
      (fun handle t => (react handle t.2).run (note (.called s.2.length handle) t)) c
      (note (.begun c) s)
    (next ran.1).run (note (.ended s.2.length ran.1) ran.2)

/-- The history of a client that finds no subscriptions. -/
def Client.history (client : Client) : List Moment := (client.run (empty, [])).2

/-! ## §2. Reading a history -/

/-- The subscription that is made. -/
def Event.made? : Event → Option Subscription
  | .subscribed sub => some sub
  | _ => none

/-- The handle that is dropped, whether there is a subscription of this handle or not. -/
def Event.dropped? : Event → Option Subscription.Handle
  | .unsubscribed handle _ => some handle
  | _ => none

/-- The command whose dispatch begins. -/
def Event.begun? : Event → Option Command
  | .begun c => some c
  | _ => none

/-- The dispatch that a call or an end belongs to. -/
def Event.dispatch? : Event → Option Nat
  | .called dispatch _ => some dispatch
  | .ended dispatch _ => some dispatch
  | _ => none

/-- The subscriptions that were made. -/
def made (history : List Moment) : List Subscription := history.filterMap (·.event.made?)

/-- The handles that were dropped. -/
def dropped (history : List Moment) : List Subscription.Handle :=
  history.filterMap (·.event.dropped?)

/-- The calls and the end of a dispatch. -/
def eventsOf (dispatch : Nat) (history : List Moment) : List Event :=
  (history.map Moment.event).filter (·.dispatch? = some dispatch)

/-- The subscriptions that are live: those that were made and not dropped since. -/
def live : List Moment → List Subscription
  | [] => []
  | m :: later => m.event.made?.toList.filter (·.handle ∉ dropped later) ++ live later

variable {past later history new : List Moment} {m : Moment} {event : Event} {n : Nat}

theorem live_append (past later : List Moment) :
    live (past ++ later) = (live past).filter (·.handle ∉ dropped later) ++ live later := by
  induction past with
  | nil => rfl
  | cons m past ih =>
    have hdropped : dropped (past ++ later) = dropped past ++ dropped later :=
      List.filterMap_append
    simp [live, ih, hdropped, List.filter_filter, and_comm]

theorem live_concat_of_subscribed {sub : Subscription} (h : m.event = .subscribed sub) :
    live (past ++ [m]) = live past ++ [sub] := by
  simp [live_append, live, dropped, h, Event.made?, Event.dropped?]

theorem live_concat_of_unsubscribed {handle : Subscription.Handle} {found : Bool}
    (h : m.event = .unsubscribed handle found) :
    live (past ++ [m]) = (live past).filter (·.handle ≠ handle) := by
  simp [live_append, live, dropped, h, Event.made?, Event.dropped?]

/-- An event that makes and drops no subscription leaves them as they are. -/
theorem live_concat_of_mark (hmade : m.event.made? = none) (hdropped : m.event.dropped? = none) :
    live (past ++ [m]) = live past := by
  simp [live_append, live, dropped, hmade, hdropped]

theorem live_sublist_made (history : List Moment) : (live history).Sublist (made history) := by
  induction history with
  | nil => exact List.Sublist.refl []
  | cons m later ih =>
    have hmade : made (m :: later) = m.event.made?.toList ++ made later := by
      cases h : m.event.made? <;> simp [made, h]
    rw [hmade]
    exact List.filter_sublist.append ih

theorem eventsOf_append (n : Nat) (past later : List Moment) :
    eventsOf n (past ++ later) = eventsOf n past ++ eventsOf n later := by
  simp [eventsOf]

theorem eventsOf_singleton (h : m.event.dispatch? = some n) : eventsOf n [m] = [m.event] := by
  simp [eventsOf, h]

theorem eventsOf_eq_nil (h : ∀ m ∈ history, m.event.dispatch? ≠ some n) :
    eventsOf n history = [] := by
  simpa [eventsOf] using h

/-- A moment in the first part of a history. -/
theorem exists_of_append_eq {α : Type} {l new past later : List α} {m : α}
    (h : l ++ new = past ++ m :: later) (hlen : past.length < l.length) :
    ∃ later', l = past ++ m :: later' ∧ later = later' ++ new := by
  obtain ⟨extra, rfl, -⟩ | ⟨later', rfl, hlater⟩ := List.append_eq_append_iff.mp h
  · rw [List.length_append] at hlen
    omega
  · cases later' with
    | nil => simp at hlen
    | cons m' later' =>
      obtain ⟨rfl, rfl⟩ := List.cons.inj hlater
      exact ⟨later', rfl, rfl⟩

/-- A moment of a history that got one more is the new one or was there before. -/
theorem eq_or_exists_of_concat_eq {α : Type} {l past later : List α} {a m : α}
    (h : l ++ [a] = past ++ m :: later) :
    (l = past ∧ a = m) ∨ ∃ later', l = past ++ m :: later' ∧ later = later' ++ [a] := by
  have hlen := congrArg List.length h
  simp only [List.length_append, List.length_cons, List.length_nil] at hlen
  by_cases hold : past.length < l.length
  · exact .inr (exists_of_append_eq h hold)
  · obtain ⟨hl, ha⟩ := List.append_inj h (by omega)
    exact .inl ⟨hl, (List.cons.inj ha).1⟩

/-! ## §3. A dispatch calls those who were there when it began -/

/-- If a dispatch begins at place `n`, then it calls the recipients that there are when it
    begins and ends with the number of subscriptions to the kind of its command. -/
def Answered (history : List Moment) (n : Nat) : Prop :=
  ∀ past c store later, history = past ++ ⟨.begun c, store⟩ :: later → past.length = n →
    eventsOf n later
      = (store.recipients c).map (.called n) ++ [.ended n (store.ofKind c).length]

/-- What others do later is not this dispatch's. -/
theorem Answered.append (h : Answered history n) (hn : n < history.length)
    (hnew : ∀ m ∈ new, m.event.dispatch? ≠ some n) : Answered (history ++ new) n := by
  intro past c store later hsplit hlen
  obtain ⟨later', hhistory, rfl⟩ := exists_of_append_eq hsplit (hlen ▸ hn)
  rw [eventsOf_append, eventsOf_eq_nil hnew, List.append_nil]
  exact h past c store later' hhistory hlen

theorem Answered.concat (h : Answered history n) (hbegun : m.event.begun? = none)
    (hm : m.event.dispatch? ≠ some n) : Answered (history ++ [m]) n := by
  intro past c store later hsplit hlen
  obtain ⟨-, rfl⟩ | ⟨later', hhistory, rfl⟩ := eq_or_exists_of_concat_eq hsplit
  · cases hbegun
  · rw [eventsOf_append, eventsOf_eq_nil (List.forall_mem_singleton.mpr hm), List.append_nil]
    exact h past c store later' hhistory hlen

/-- Nothing begins after the end of the history. -/
theorem answered_of_length_le (hn : history.length ≤ n) : Answered history n := by
  rintro past c store later rfl rfl
  rw [List.length_append, List.length_cons] at hn
  omega

/-- All calls and ends are those of dispatches that began at place `k` or later. -/
def Since (k : Nat) (history : List Moment) : Prop :=
  ∀ m ∈ history, ∀ n, m.event.dispatch? = some n → k ≤ n

variable {k : Nat}

theorem Since.nil : Since k [] := List.forall_mem_nil _

theorem Since.append (h : Since k past) (h' : Since k later) : Since k (past ++ later) :=
  List.forall_mem_append.mpr ⟨h, h'⟩

theorem Since.mono {j : Nat} (h : Since k history) (hle : j ≤ k) : Since j history :=
  fun m hm n hn => hle.trans (h m hm n hn)

theorem Since.outside (h : m.event.dispatch? = none) : Since k [m] :=
  List.forall_mem_singleton.mpr fun _ hn => by cases h.symm.trans hn

theorem Since.own (h : m.event.dispatch? = some k) : Since k [m] :=
  List.forall_mem_singleton.mpr fun _ hn => (Option.some.inj (h.symm.trans hn)).le

/-- Nothing is of a dispatch that began before. -/
theorem Since.ne (h : Since k history) (hn : n < k) : ∀ m ∈ history, m.event.dispatch? ≠ some n :=
  fun m hm heq => absurd (h m hm n heq) (Nat.not_le.mpr hn)

/-- What happened between two points of a history is complete: calls and ends are those of
    dispatches that began since, and each of these is answered. -/
structure Leads (past history : List Moment) : Prop where
  new : ∃ new, history = past ++ new ∧ Since past.length new
  answered : ∀ n, past.length ≤ n → Answered history n

theorem Leads.refl (history : List Moment) : Leads history history where
  new := ⟨[], (List.append_nil history).symm, .nil⟩
  answered := fun _ hn => answered_of_length_le hn

/-- What was answered stays answered. -/
theorem Leads.answered_mono (h : Leads history later) (hn : Answered history n) :
    Answered later n := by
  obtain ⟨⟨new, rfl, hnew⟩, hanswered⟩ := h
  by_cases hold : n < history.length
  · exact hn.append hold (hnew.ne hold)
  · exact hanswered n (Nat.not_lt.mp hold)

theorem Leads.trans (h : Leads past history) (h' : Leads history later) : Leads past later := by
  refine ⟨?_, fun n hn => h'.answered_mono (h.answered n hn)⟩
  obtain ⟨⟨new, rfl, hnew⟩, -⟩ := h
  obtain ⟨⟨new', rfl, hnew'⟩, -⟩ := h'
  have hlen : past.length ≤ (past ++ new).length := List.length_append ▸ Nat.le_add_right ..
  exact ⟨new ++ new', List.append_assoc .., hnew.append (hnew'.mono hlen)⟩

/-- An event outside all dispatches. -/
theorem Leads.mark (store : Subscriptions) (history : List Moment) (hbegun : event.begun? = none)
    (hevent : event.dispatch? = none) : Leads history (note event (store, history)).2 where
  new := ⟨_, rfl, .outside hevent⟩
  answered := fun n hn =>
    (answered_of_length_le hn).concat hbegun (hevent.trans_ne (Option.some_ne_none n).symm)

variable {start : Moment} {calls : List Subscription.Handle}

/-- A dispatch that began at the end of `past` is under way and has made some calls. -/
structure Calling (past : List Moment) (start : Moment) (calls : List Subscription.Handle)
    (history : List Moment) : Prop where
  during : ∃ during, history = past ++ start :: during
    ∧ eventsOf past.length during = calls.map (.called past.length)
    ∧ Since past.length during
  answered : ∀ n, past.length < n → Answered history n

theorem Calling.begin (past : List Moment) (start : Moment) :
    Calling past start [] (past ++ [start]) where
  during := ⟨[], rfl, rfl, .nil⟩
  answered := fun n hn => answered_of_length_le (by rwa [List.length_append])

/-- One call more. -/
theorem Calling.call (h : Calling past start calls history) (handle : Subscription.Handle)
    (store : Subscriptions) :
    Calling past start (calls ++ [handle])
      (note (.called past.length handle) (store, history)).2 := by
  obtain ⟨⟨during, rfl, hcalls, hduring⟩, hanswered⟩ := h
  refine ⟨⟨during ++ [⟨.called past.length handle, store⟩], ?_, ?_, hduring.append (.own rfl)⟩,
    fun n hn => ?_⟩
  · exact List.append_assoc past (start :: during) _
  · rw [eventsOf_append, hcalls, eventsOf_singleton rfl, List.map_append]
    rfl
  · exact (hanswered n hn).concat rfl fun heq => hn.ne (Option.some.inj heq)

/-- What a handler does is no call of the dispatch that called it. -/
theorem Calling.lead (h : Calling past start calls history) (hrun : Leads history later) :
    Calling past start calls later := by
  refine ⟨?_, fun n hn => hrun.answered_mono (h.answered n hn)⟩
  obtain ⟨⟨during, rfl, hcalls, hduring⟩, -⟩ := h
  obtain ⟨⟨new, rfl, hnew⟩, -⟩ := hrun
  have hlen : past.length < (past ++ start :: during).length := by
    rw [List.length_append, List.length_cons]
    omega
  refine ⟨during ++ new, List.append_assoc past (start :: during) new, ?_,
    hduring.append (hnew.mono hlen.le)⟩
  rw [eventsOf_append, eventsOf_eq_nil (hnew.ne hlen), List.append_nil, hcalls]

/-- The end of a dispatch. -/
theorem Calling.finish {c : Command} {store : Subscriptions}
    (h : Calling past ⟨.begun c, store⟩ (store.recipients c) history) (now : Subscriptions) :
    Leads past (note (.ended past.length (store.ofKind c).length) (now, history)).2 := by
  obtain ⟨⟨during, rfl, hcalls, hduring⟩, hanswered⟩ := h
  refine ⟨⟨[⟨.begun c, store⟩] ++ (during ++ [⟨.ended past.length (store.ofKind c).length, now⟩]),
    ?_, .append (.outside rfl) (hduring.append (.own rfl))⟩, fun n hn => ?_⟩
  · exact List.append_assoc past (⟨.begun c, store⟩ :: during) _
  · obtain rfl | hlater := hn.eq_or_lt
    · intro past' c' store' later hsplit hlen
      obtain ⟨rfl, hrest⟩ := List.append_inj
        ((List.append_assoc ..).symm.trans hsplit) hlen.symm
      obtain ⟨heq, rfl⟩ := List.cons.inj hrest
      cases heq
      refine (eventsOf_append ..).trans ?_
      rw [hcalls, eventsOf_singleton rfl]
    · exact (hanswered n hlater).concat rfl fun heq => hlater.ne (Option.some.inj heq)

variable {s : Subscriptions × List Moment}

/-- All calls of a dispatch, and what the handlers do. -/
theorem Calling.foldl {react : Subscription.Handle → List Moment → Client}
    (hreact : ∀ handle history s, Leads s.2 ((react handle history).run s).2)
    (handles : List Subscription.Handle) (h : Calling past start calls s.2) :
    Calling past start (calls ++ handles)
      (handles.foldl (fun t handle =>
        (react handle t.2).run (note (.called past.length handle) t)) s).2 := by
  induction handles generalizing s calls with
  | nil => simpa using h
  | cons handle rest ih =>
    rw [List.append_cons]
    exact ih ((h.call handle s.1).lead (hreact handle s.2 _))

/-- **Whatever a client does, its dispatches are answered.** -/
theorem Leads.run (client : Client) (s : Subscriptions × List Moment) :
    Leads s.2 (client.run s).2 := by
  induction client generalizing s with
  | done => exact .refl s.2
  | subscribe kind accepts next ih => exact (Leads.mark _ s.2 rfl rfl).trans (ih _ _)
  | unsubscribe handle next ih => exact (Leads.mark _ s.2 rfl rfl).trans (ih _ _)
  | dispatch c react next ihreact ihnext =>
    have hcalls : Calling s.2 ⟨.begun c, s.1⟩ (s.1.recipients c) _ :=
      Calling.foldl (s := note (.begun c) s) ihreact (s.1.recipients c) (.begin s.2 _)
    exact (hcalls.finish _).trans (ihnext _ _)

/-! ## §4. The store holds what is live -/

/-- The handle of the subscription that is made after `n` others. -/
def nthHandle (n : Nat) : Subscription.Handle := ⟨UInt64.ofNat n⟩

theorem nthHandle_inj {k n : Nat} (hk : k < UInt64.size) (hn : n < UInt64.size)
    (h : nthHandle k = nthHandle n) : k = n := by
  have hid : UInt64.ofNat k = UInt64.ofNat n := congrArg Subscription.Handle.id h
  rw [← UInt64.toNat_ofNat_of_lt' hk, hid, UInt64.toNat_ofNat_of_lt' hn]

/-- A dispatch begins at place `n` of a history. -/
def BeginsAt (n : Nat) (history : List Moment) : Prop :=
  ∃ past c store later, history = past ++ ⟨.begun c, store⟩ :: later ∧ past.length = n

/-- A beginning stays where it is. -/
theorem BeginsAt.append (h : BeginsAt n history) (new : List Moment) :
    BeginsAt n (history ++ new) := by
  obtain ⟨past, c, store, later, rfl, hlen⟩ := h
  exact ⟨past, c, store, later ++ new, List.append_assoc .., hlen⟩

/-- What is true of a moment and those before it. -/
structure Moment.Faithful (past : List Moment) (m : Moment) : Prop where
  /-- The store holds what is live. -/
  store : m.store.entries = live (past ++ [m])
  /-- A handle is found if it is that of a live subscription. -/
  found : ∀ handle found, m.event = .unsubscribed handle found →
    (found = true ↔ handle ∈ (live past).map Subscription.handle)
  /-- A call or an end belongs to a dispatch that has begun. -/
  begun : ∀ n, m.event.dispatch? = some n → BeginsAt n past

/-- The store `s.1` is the one that the history `s.2` leads to. -/
structure Kept (s : Subscriptions × List Moment) : Prop where
  entries : s.1.entries = live s.2
  nextId : s.1.nextId = UInt64.ofNat (made s.2).length
  handles : (made s.2).map Subscription.handle
    = (List.range (made s.2).length).map nthHandle
  moments : ∀ past m later, s.2 = past ++ m :: later → m.Faithful past

theorem Kept.begin : Kept (empty, []) where
  entries := rfl
  nextId := rfl
  handles := rfl
  moments := fun _ _ _ h => absurd h (by simp)

/-- A moment more: the history stays as it is up to there. -/
theorem Kept.moments_concat (h : Kept s) (hm : m.Faithful s.2) :
    ∀ past m' later, s.2 ++ [m] = past ++ m' :: later → m'.Faithful past := by
  intro past m' later hsplit
  obtain ⟨rfl, rfl⟩ | ⟨later', hsplit', -⟩ := eq_or_exists_of_concat_eq hsplit
  · exact hm
  · exact h.moments past m' later' hsplit'

/-- An event that makes no subscription leaves the handles as they are. -/
theorem Kept.note_of_not_made (h : Kept s) {store : Subscriptions} (hmade : event.made? = none)
    (hnext : store.nextId = s.1.nextId) (hm : Moment.Faithful s.2 ⟨event, store⟩) :
    Kept (note event (store, s.2)) := by
  have hsame : made (s.2 ++ [⟨event, store⟩]) = made s.2 := by simp [made, hmade]
  refine ⟨hm.store, ?_, ?_, h.moments_concat hm⟩
  · show store.nextId = UInt64.ofNat (made (s.2 ++ [⟨event, store⟩])).length
    rw [hsame, hnext]
    exact h.nextId
  · show (made (s.2 ++ [⟨event, store⟩])).map Subscription.handle
      = (List.range (made (s.2 ++ [⟨event, store⟩])).length).map nthHandle
    rw [hsame]
    exact h.handles

/-- An event that makes and drops no subscription is only written down. -/
theorem Kept.mark (h : Kept s) (hmade : event.made? = none) (hdropped : event.dropped? = none)
    (hbegun : ∀ n, event.dispatch? = some n → BeginsAt n s.2) : Kept (note event s) := by
  refine h.note_of_not_made hmade rfl ⟨?_, ?_, hbegun⟩
  · rw [h.entries, live_concat_of_mark hmade hdropped]
  · rintro handle found rfl
    cases hdropped

theorem Kept.subscribe (h : Kept s) (kind : CommandKind) (accepts : Command → Bool) :
    Kept (note (.subscribed ⟨(s.1.subscribe kind accepts).1, kind, accepts⟩)
      ((s.1.subscribe kind accepts).2, s.2)) := by
  obtain ⟨store, history⟩ := s
  have hmade (sub : Subscription) (now : Subscriptions) :
      made (history ++ [⟨.subscribed sub, now⟩]) = made history ++ [sub] :=
    List.filterMap_append
  have hentries : (store.subscribe kind accepts).2.entries
      = live (history ++ [⟨.subscribed ⟨⟨store.nextId⟩, kind, accepts⟩,
          (store.subscribe kind accepts).2⟩]) := by
    rw [live_concat_of_subscribed rfl, ← h.entries]
    rfl
  refine ⟨hentries, ?_, ?_, h.moments_concat ⟨hentries, nofun, nofun⟩⟩
  · show store.nextId + 1 = UInt64.ofNat (made (history ++ [_])).length
    rw [hmade, List.length_append, h.nextId, UInt64.ofNat_add]
    rfl
  · show (made (history ++ [_])).map Subscription.handle
      = (List.range (made (history ++ [_])).length).map nthHandle
    have hnext : nthHandle (made history).length = ⟨store.nextId⟩ :=
      congrArg Subscription.Handle.mk h.nextId.symm
    rw [hmade, List.length_append, List.map_append, h.handles, List.length_singleton,
      List.range_succ, List.map_append, List.map_singleton, List.map_singleton, hnext]
    rfl

/-- A handle is found if it is that of an entry. -/
theorem unsubscribe_found_iff (store : Subscriptions) (handle : Subscription.Handle) :
    (store.unsubscribe handle).1 = true
      ↔ handle ∈ store.entries.map Subscription.handle := by
  simp [Subscriptions.unsubscribe, List.length_filter_eq_length_iff]

theorem Kept.unsubscribe (h : Kept s) (handle : Subscription.Handle) :
    Kept (note (.unsubscribed handle (s.1.unsubscribe handle).1)
      ((s.1.unsubscribe handle).2, s.2)) := by
  refine h.note_of_not_made rfl rfl ⟨?_, ?_, nofun⟩
  · rw [live_concat_of_unsubscribed rfl, ← h.entries]
    rfl
  · rintro other found hevent
    obtain ⟨rfl, rfl⟩ := Event.unsubscribed.inj hevent
    rw [unsubscribe_found_iff, h.entries]

/-- The calls of a dispatch that has begun, and what the handlers do. -/
theorem Kept.foldl {react : Subscription.Handle → List Moment → Client}
    (hreact : ∀ handle history {s}, Kept s → Kept ((react handle history).run s))
    (handles : List Subscription.Handle) (h : Kept s) (hbegins : BeginsAt n s.2) :
    let ran := handles.foldl (fun t handle =>
      (react handle t.2).run (note (.called n handle) t)) s
    Kept ran ∧ BeginsAt n ran.2 := by
  induction handles generalizing s with
  | nil => exact ⟨h, hbegins⟩
  | cons handle rest ih =>
    have hcalled : Kept (note (.called n handle) s) :=
      h.mark rfl rfl fun k hk => Option.some.inj hk ▸ hbegins
    obtain ⟨new, hnew, -⟩ := (Leads.run (react handle s.2) (note (.called n handle) s)).new
    exact ih (hreact handle s.2 hcalled) (hnew ▸ (hbegins.append _).append new)

/-- **Whatever a client does, the store holds what is live.** -/
theorem Kept.run (client : Client) (h : Kept s) : Kept (client.run s) := by
  induction client generalizing s with
  | done => exact h
  | subscribe kind accepts next ih => exact ih _ (h.subscribe kind accepts)
  | unsubscribe handle next ih => exact ih _ (h.unsubscribe handle)
  | dispatch c react next ihreact ihnext =>
    have hbegun : Kept (note (.begun c) s) := h.mark rfl rfl nofun
    have hbegins : BeginsAt s.2.length (note (.begun c) s).2 := ⟨s.2, c, s.1, [], rfl, rfl⟩
    obtain ⟨hran, hstays⟩ := hbegun.foldl (fun handle history _ => ihreact handle history)
      (s.1.recipients c) hbegins
    exact ihnext _ (hran.mark rfl rfl fun n hn => Option.some.inj hn ▸ hstays)

/-! ## §5. Every history -/

/-- What those who use the subscriptions may count on. -/
structure Dependable (history : List Moment) : Prop where
  /-- No two subscriptions have the same handle. -/
  handles : ((made history).map Subscription.handle).Nodup
  /-- At every moment the store holds the live subscriptions. -/
  store : ∀ past m later, history = past ++ m :: later → m.store.entries = live (past ++ [m])
  /-- The handle of a live subscription is found, and only this subscription goes; no
      other handle is found, and nothing goes. -/
  unsubscribe : ∀ past handle found store later,
    history = past ++ ⟨.unsubscribed handle found, store⟩ :: later →
      (found = true ∧ ∃ before sub after, live past = before ++ sub :: after
        ∧ sub.handle = handle ∧ store.entries = before ++ after)
      ∨ (found = false ∧ handle ∉ (live past).map Subscription.handle
        ∧ store.entries = live past)
  /-- A dispatch calls, once each and in order, the handlers of those that were live when
      it began, are of the kind of the command and accept it.  Then it ends, with the number
      of those that are of the kind. -/
  dispatch : ∀ past c store later, history = past ++ ⟨.begun c, store⟩ :: later →
    eventsOf past.length later
        = (((live past).filter fun sub => sub.kind = c.kind && sub.accepts c).map
            fun sub => .called past.length sub.handle)
          ++ [.ended past.length ((live past).filter (·.kind = c.kind)).length]
      ∧ (eventsOf past.length later).Nodup
  /-- No handler is called but by a dispatch that has begun. -/
  calls : ∀ past n handle store later,
    history = past ++ ⟨.called n handle, store⟩ :: later → BeginsAt n past

theorem Kept.handles_nodup (h : Kept s) (few : (made s.2).length ≤ UInt64.size) :
    ((made s.2).map Subscription.handle).Nodup := by
  rw [h.handles]
  refine List.Nodup.map_on (fun k hk n hn heq => ?_) List.nodup_range
  exact nthHandle_inj ((List.mem_range.mp hk).trans_le few) ((List.mem_range.mp hn).trans_le few)
    heq

theorem live_handles_nodup (h : ((made (history ++ later)).map Subscription.handle).Nodup) :
    ((live history).map Subscription.handle).Nodup := by
  have hmade : made (history ++ later) = made history ++ made later := List.filterMap_append
  rw [hmade, List.map_append] at h
  exact (List.Nodup.of_append_left h).sublist ((live_sublist_made history).map _)

/-- Where handles are distinct, a handle takes away one subscription. -/
theorem exists_of_filter_handle {subs : List Subscription} {handle : Subscription.Handle}
    (hnodup : (subs.map Subscription.handle).Nodup)
    (hmem : handle ∈ subs.map Subscription.handle) :
    ∃ before sub after, subs = before ++ sub :: after ∧ sub.handle = handle
      ∧ subs.filter (·.handle ≠ handle) = before ++ after := by
  obtain ⟨sub, hsub, rfl⟩ := List.mem_map.mp hmem
  obtain ⟨before, after, rfl⟩ := List.append_of_mem hsub
  refine ⟨before, sub, after, rfl, rfl, ?_⟩
  rw [List.map_append, List.map_cons, List.nodup_middle, ← List.map_append] at hnodup
  have hothers : (before ++ after).filter (·.handle ≠ sub.handle) = before ++ after := by
    refine List.filter_eq_self.mpr fun other hother => decide_eq_true fun heq => ?_
    exact (List.nodup_cons.mp hnodup).1 (List.mem_map.mpr ⟨other, hother, heq⟩)
  rw [List.filter_append, List.filter_cons_of_neg (by simp), ← List.filter_append, hothers]

/-- What is found and what is left when a handle is dropped. -/
theorem Moment.Faithful.removal {handle : Subscription.Handle} {found : Bool}
    {store : Subscriptions} (h : Moment.Faithful past ⟨.unsubscribed handle found, store⟩)
    (hnodup : ((live past).map Subscription.handle).Nodup) :
    (found = true ∧ ∃ before sub after, live past = before ++ sub :: after
        ∧ sub.handle = handle ∧ store.entries = before ++ after)
      ∨ (found = false ∧ handle ∉ (live past).map Subscription.handle
        ∧ store.entries = live past) := by
  have hstore : store.entries = (live past).filter (·.handle ≠ handle) :=
    h.store.trans (live_concat_of_unsubscribed rfl)
  have hfound := h.found handle found rfl
  cases found with
  | true =>
    obtain ⟨before, sub, after, heq, hhandle, hrest⟩ :=
      exists_of_filter_handle hnodup (hfound.mp rfl)
    exact .inl ⟨rfl, before, sub, after, heq, hhandle, hstore.trans hrest⟩
  | false =>
    have hgone : handle ∉ (live past).map Subscription.handle :=
      fun hmem => Bool.false_ne_true (hfound.mpr hmem)
    refine .inr ⟨rfl, hgone, hstore.trans (List.filter_eq_self.mpr fun sub hsub => ?_)⟩
    exact decide_eq_true fun heq => hgone (List.mem_map.mpr ⟨sub, hsub, heq⟩)

/-- The recipients, by one look at each entry. -/
theorem recipients_eq (store : Subscriptions) (c : Command) :
    store.recipients c = (store.entries.filter fun sub =>
      sub.kind = c.kind && sub.accepts c).map Subscription.handle := by
  simp [recipients, ofKind, List.filter_filter, Bool.and_comm]

/-- Calls of distinct handlers and the end are distinct events. -/
theorem nodup_calls (n count : Nat) {handles : List Subscription.Handle} (h : handles.Nodup) :
    (handles.map (Event.called n) ++ [Event.ended n count]).Nodup := by
  refine List.Nodup.append (h.map fun _ _ heq => (Event.called.inj heq).2)
    (List.nodup_singleton _) fun event hcall hend => ?_
  obtain ⟨handle, -, rfl⟩ := List.mem_map.mp hcall
  cases List.mem_singleton.mp hend

/-- **Subscriptions are dependable, whatever the client and the handlers that run for it do.** -/
theorem subscriptions_answer_by_history (client : Client)
    (few : (made client.history).length ≤ UInt64.size) : Dependable client.history := by
  have hkept : Kept (client.run (empty, [])) := Kept.begin.run client
  have hleads : Leads [] client.history := Leads.run client (empty, [])
  have hnodup : ((made client.history).map Subscription.handle).Nodup := hkept.handles_nodup few
  have hlive {past later : List Moment} (hsplit : client.history = past ++ later) :
      ((live past).map Subscription.handle).Nodup :=
    live_handles_nodup (hsplit ▸ hnodup)
  refine ⟨hnodup, fun past m later hsplit => (hkept.moments past m later hsplit).store,
    fun past handle found store later hsplit => ?_, fun past c store later hsplit => ?_,
    fun past n handle store later hsplit => (hkept.moments past _ later hsplit).begun n rfl⟩
  · exact (hkept.moments past _ later hsplit).removal (hlive hsplit)
  · have hstore : store.entries = live past :=
      (hkept.moments past _ later hsplit).store.trans (live_concat_of_mark rfl rfl)
    have hevents := hleads.answered past.length (Nat.zero_le _) past c store later hsplit rfl
    have hdistinct : (eventsOf past.length later).Nodup := by
      rw [hevents, recipients_eq, hstore]
      exact nodup_calls _ _ ((hlive hsplit).sublist (List.filter_sublist.map _))
    rw [recipients_eq, ofKind, hstore, List.map_map] at hevents
    exact ⟨hevents, hdistinct⟩

/-- A client with two subscriptions whose first handler drops the second and makes a third,
    and that dispatches the same command once more. -/
def changingClient : Client :=
  .subscribe .sucNodeId (fun _ => true) fun first =>
  .subscribe .sucNodeId (fun c => c = .sucNodeId ⟨4⟩) fun second =>
  .dispatch (.sucNodeId ⟨4⟩)
    (fun handle _ =>
      if handle = first then
        .unsubscribe second fun _ => .subscribe .sucNodeId (fun _ => true) fun _ => .done
      else .done) fun _ =>
  .dispatch (.sucNodeId ⟨4⟩) (fun _ _ => .done) fun _ => .done

/-- The second handler is called in the first dispatch all the same, and the third only in
    the second. -/
theorem subscriptions_answer_by_history_of_changes :
    (made changingClient.history).length ≤ UInt64.size ∧ Dependable changingClient.history
      ∧ eventsOf 2 changingClient.history
        = [.called 2 (nthHandle 0), .called 2 (nthHandle 1), .ended 2 2]
      ∧ eventsOf 8 changingClient.history
        = [.called 8 (nthHandle 0), .called 8 (nthHandle 2), .ended 8 2] :=
  ⟨by decide, subscriptions_answer_by_history changingClient (by decide), rfl, rfl⟩

end Subscriptions

end ZWaveHost
