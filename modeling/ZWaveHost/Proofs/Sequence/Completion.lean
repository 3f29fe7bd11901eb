/-
  ZWaveHost.Proofs.Sequence.Completion — what the signals of a sequence tell.

  Whoever waits for the end of a sequence holds one of its signals.  Signals
  are handed out at any time and read at any time; and a sequence may fail
  more than once, and be sent again after its end.

  Main fact: what one use of a sequence makes of a signal that is there
  before it (`exists_turn`) and which signal it adds (`eq_of_new_signal`).

  Main statement: `signals_tell_terminal_state`.
-/
import Mathlib.Data.List.Induction
import ZWaveHost.Proofs.Sequence.Operation

namespace ZWaveHost

namespace Sequence

/-! ## §1. Uses -/

/-- What is done with a sequence: an operation, or a look at a signal. -/
inductive Use where
  | operate (op : Operation)
  | poll (signal : Nat)
  deriving DecidableEq

/-- The sequence after a use. -/
def afterUse (s : Sequence) : Use → Sequence
  | .operate op => s.after op
  | .poll signal => (s.poll signal).2

/-- The sequence after uses, one after the other. -/
def runUses (s : Sequence) (uses : List Use) : Sequence := uses.foldl afterUse s

variable {s t : Sequence} {op : Operation} {use : Use} {n : Nat} {signal next : Signal}

@[simp] theorem runUses_nil : s.runUses [] = s := rfl

theorem runUses_append (before uses : List Use) :
    s.runUses (before ++ uses) = (s.runUses before).runUses uses :=
  List.foldl_append

theorem runUses_concat (before : List Use) (use : Use) :
    s.runUses (before ++ [use]) = (s.runUses before).afterUse use := by
  rw [runUses_append]
  rfl

/-! ## §2. The signals after an operation -/

/-- **An accepted operation adds no signal**, and a terminal state reaches the
    one that waits. -/
theorem perform_signals (hop : s.perform op = .ok t) (hne : op ≠ .completion) :
    t.signals = if t.isTerminal then s.signals.map (resolveWith t.state) else s.signals := by
  cases op with
  | start =>
    obtain ⟨_, rfl⟩ := start_eq_ok_iff.mp hop
    simp [enter_signals, isTerminal]
  | acknowledge =>
    obtain ⟨_, next, _, rfl⟩ := acknowledge_eq_ok_iff.mp hop
    simp [enter_signals, isTerminal]
  | updateResponse response =>
    obtain ⟨_, next, _, rfl⟩ := updateResponse_eq_ok_iff.mp hop
    simp [enter_signals, isTerminal]
  | updateCallback callback =>
    obtain ⟨_, _, rfl⟩ := updateCallback_eq_ok_iff.mp hop
    simp [enter_signals, isTerminal]
  | retry =>
    cases hop
    rfl
  | fail =>
    cases hop
    show (s.enter .failed).signals = _
    simp [fail, enter_signals, isTerminal]
  | completion => exact absurd rfl hne

/-! ## §3. One use -/

/-- No signal waits for a sequence that is over. -/
def Settled (s : Sequence) : Prop := s.isTerminal = true → .waiting ∉ s.signals

/-- **What a use makes of a signal**; `t` is the sequence after it. -/
inductive Turn (t : Sequence) (use : Use) (n : Nat) : Signal → Signal → Prop
  /-- It goes on waiting while the sequence goes on. -/
  | waits (hopen : t.isTerminal = false) (huse : use ≠ .operate .completion) :
    Turn t use n .waiting .waiting
  /-- A later signal takes its place. -/
  | superseded (hopen : t.isTerminal = false) (huse : use = .operate .completion) :
    Turn t use n .waiting .closed
  /-- The sequence is over. -/
  | resolves (hover : t.isTerminal = true) : Turn t use n .waiting (.resolved t.state)
  /-- It has not been read. -/
  | stays (state : SequenceState) (huse : use ≠ .poll n) :
    Turn t use n (.resolved state) (.resolved state)
  /-- It is read. -/
  | read (state : SequenceState) (huse : use = .poll n) : Turn t use n (.resolved state) .closed
  | closed : Turn t use n .closed .closed

/-- A signal that is let alone. -/
theorem Turn.alone (hwaits : signal = .waiting → t.isTerminal = false ∧ use ≠ .operate .completion)
    (hread : use = .poll n → ∀ state, signal ≠ .resolved state) : Turn t use n signal signal := by
  cases signal with
  | waiting => exact .waits (hwaits rfl).1 (hwaits rfl).2
  | resolved state => exact .stays state fun huse => hread huse state rfl
  | closed => exact .closed

theorem Settled.isTerminal_eq_false (hs : s.Settled) (hn : s.signals[n]? = some .waiting) :
    s.isTerminal = false := by
  cases hover : s.isTerminal with
  | false => rfl
  | true => exact absurd (List.mem_of_getElem? hn) (hs hover)

/-- **A look at a signal** shows what it is, and takes a terminal state away. -/
theorem poll_cases (s : Sequence) (m : Nat) :
    (∃ state, s.signals[m]? = some (.resolved state)
      ∧ s.poll m = (.resolved state, { s with signals := s.signals.set m .closed }))
    ∨ (∀ state, s.signals[m]? ≠ some (.resolved state))
      ∧ s.poll m = ((s.signals[m]?).getD .closed, s) := by
  unfold poll
  cases s.signals[m]? with
  | none => exact .inr ⟨fun state => by simp, rfl⟩
  | some signal =>
    cases signal with
    | resolved state => exact .inl ⟨state, rfl, rfl⟩
    | waiting => exact .inr ⟨fun state => by simp, rfl⟩
    | closed => exact .inr ⟨fun state => by simp, rfl⟩

theorem poll_eq_resolved_iff {state : SequenceState} :
    (s.poll n).1 = .resolved state ↔ s.signals[n]? = some (.resolved state) := by
  obtain ⟨other, hn, hpoll⟩ | ⟨hn, hpoll⟩ := poll_cases s n
  · rw [hpoll, hn, Option.some.injEq]
  · rw [hpoll]
    constructor
    · intro htold
      cases hsignal : s.signals[n]? with
      | none =>
        rw [hsignal] at htold
        cases htold
      | some signal =>
        rw [hsignal] at htold
        cases htold
        exact absurd hsignal (hn state)
    · intro hsignal
      exact absurd hsignal (hn state)

theorem exists_turn_poll (hs : s.Settled) (hn : s.signals[n]? = some signal) (m : Nat) :
    ∃ next, (s.poll m).2.signals[n]? = some next ∧ Turn (s.poll m).2 (.poll m) n signal next := by
  have hwaits : signal = .waiting → s.isTerminal = false ∧ Use.poll m ≠ .operate .completion := by
    rintro rfl
    exact ⟨hs.isTerminal_eq_false hn, by simp⟩
  obtain ⟨state, hm, hpoll⟩ | ⟨hm, hpoll⟩ := poll_cases s m
  · rw [hpoll]
    by_cases hnm : m = n
    · subst hnm
      rw [hn, Option.some.injEq] at hm
      subst hm
      refine ⟨.closed, ?_, .read state rfl⟩
      exact List.getElem?_set_self (List.getElem?_eq_some_iff.mp hn).1
    · refine ⟨signal, ?_, .alone hwaits fun huse => absurd (Use.poll.inj huse) hnm⟩
      show (s.signals.set m .closed)[n]? = some signal
      rw [List.getElem?_set_ne hnm, hn]
  · rw [hpoll]
    refine ⟨signal, hn, .alone hwaits ?_⟩
    rintro huse state rfl
    cases huse
    exact hm state hn

theorem exists_turn_perform (hs : s.Settled) (hn : s.signals[n]? = some signal)
    (hop : s.perform op = .ok t) :
    ∃ next, t.signals[n]? = some next ∧ Turn t (.operate op) n signal next := by
  by_cases hcompletion : op = .completion
  · subst hcompletion
    cases hop
    have hlt : n < s.signals.length := (List.getElem?_eq_some_iff.mp hn).1
    cases hover : s.isTerminal with
    | true =>
      -- nothing waits, so there is nothing to supersede
      have hsignals := completion_signals s
      rw [hover, if_pos rfl] at hsignals
      refine ⟨signal, ?_, .alone ?_ fun huse => by cases huse⟩
      · rw [hsignals, List.getElem?_append_left hlt, hn]
      · rintro rfl
        rw [hs.isTerminal_eq_false hn] at hover
        cases hover
    | false =>
      have hsignals := completion_signals s
      rw [hover, if_neg Bool.false_ne_true] at hsignals
      refine ⟨supersede signal, ?_, ?_⟩
      · rw [hsignals, List.getElem?_append_left (by simpa using hlt), List.getElem?_map, hn]
        rfl
      · cases signal with
        | waiting =>
          refine .superseded ?_ rfl
          show s.completion.2.state.isTerminal = false
          rw [completion_state]
          exact hover
        | resolved state => exact .stays state fun huse => by cases huse
        | closed => exact .closed
  · have hsignals := perform_signals hop hcompletion
    cases hover : t.isTerminal with
    | true =>
      rw [hover, if_pos rfl] at hsignals
      refine ⟨resolveWith t.state signal, ?_, ?_⟩
      · rw [hsignals, List.getElem?_map, hn]
        rfl
      · cases signal with
        | waiting => exact .resolves hover
        | resolved state => exact .stays state fun huse => by cases huse
        | closed => exact .closed
    | false =>
      rw [hover, if_neg Bool.false_ne_true] at hsignals
      refine ⟨signal, ?_, .alone ?_ fun huse => by cases huse⟩
      · rw [hsignals, hn]
      · intro _
        exact ⟨hover, fun huse => hcompletion (Use.operate.inj huse)⟩

/-- **Every signal takes one of its turns** at every use. -/
theorem exists_turn (hs : s.Settled) (hn : s.signals[n]? = some signal) (use : Use) :
    ∃ next, (s.afterUse use).signals[n]? = some next
      ∧ Turn (s.afterUse use) use n signal next := by
  cases use with
  | poll m => exact exists_turn_poll hs hn m
  | operate op =>
    show ∃ next, (s.after op).signals[n]? = some next
      ∧ Turn (s.after op) (.operate op) n signal next
    unfold after
    cases hop : s.perform op with
    | ok t => exact exists_turn_perform hs hn hop
    | error fault =>
      refine ⟨signal, hn, .alone ?_ fun huse => by cases huse⟩
      rintro rfl
      refine ⟨hs.isTerminal_eq_false hn, ?_⟩
      rintro heq
      cases heq
      cases hop

/-- Only the operation that hands out a signal adds one. -/
theorem length_signals_afterUse (huse : use ≠ .operate .completion) :
    (s.afterUse use).signals.length = s.signals.length := by
  cases use with
  | poll m =>
    show (s.poll m).2.signals.length = s.signals.length
    obtain ⟨_, _, hpoll⟩ | ⟨_, hpoll⟩ := poll_cases s m
    · rw [hpoll]
      exact List.length_set
    · rw [hpoll]
  | operate op =>
    show (s.after op).signals.length = s.signals.length
    unfold after
    cases hop : s.perform op with
    | error fault => rfl
    | ok t =>
      have hsignals := perform_signals hop fun heq => huse (congrArg Use.operate heq)
      show t.signals.length = s.signals.length
      rw [hsignals]
      split
      · exact List.length_map _
      · rfl

/-- What a signal tells when it is handed out. -/
def firstSignal (s : Sequence) : Signal :=
  if s.isTerminal then .resolved s.state else .waiting

theorem getElem?_completion_self (s : Sequence) :
    s.completion.2.signals[s.completion.1]? = some s.firstSignal := by
  show s.completion.2.signals[s.signals.length]? = some s.firstSignal
  rw [completion_signals]
  unfold firstSignal
  cases s.isTerminal with
  | true => simp
  | false =>
    rw [if_neg Bool.false_ne_true, if_neg Bool.false_ne_true,
      List.getElem?_append_right (by simp)]
    simp

/-- **A use adds at most one signal**, the next one. -/
theorem eq_of_new_signal (hn : s.signals.length ≤ n)
    (hnext : (s.afterUse use).signals[n]? = some next) :
    use = .operate .completion ∧ n = s.signals.length ∧ next = s.firstSignal := by
  have hlt : n < (s.afterUse use).signals.length := (List.getElem?_eq_some_iff.mp hnext).1
  by_cases huse : use = .operate .completion
  · subst huse
    have hlength : (s.afterUse (.operate .completion)).signals.length = s.signals.length + 1 := by
      show s.completion.2.signals.length = s.signals.length + 1
      rw [completion_signals]
      split <;> simp
    have heq : n = s.signals.length := by omega
    subst heq
    have hself := getElem?_completion_self s
    rw [show s.completion.2.signals[s.completion.1]? = some next from hnext] at hself
    exact ⟨rfl, rfl, Option.some.inj hself⟩
  · rw [length_signals_afterUse huse] at hlt
    omega

theorem Settled.afterUse (hs : s.Settled) (use : Use) : (s.afterUse use).Settled := by
  intro hover hmem
  obtain ⟨n, hn⟩ := List.mem_iff_getElem?.mp hmem
  by_cases hlt : n < s.signals.length
  · obtain ⟨next, hnext, hturn⟩ := exists_turn hs (List.getElem?_eq_getElem hlt) use
    rw [hn, Option.some.injEq] at hnext
    subst hnext
    generalize s.signals[n] = signal at hturn
    cases hturn with
    | waits hopen => exact absurd hover (by simp [hopen])
  · obtain ⟨rfl, _, hfirst⟩ := eq_of_new_signal (by omega) hn
    have hstate : (s.afterUse (.operate .completion)).isTerminal = s.isTerminal :=
      congrArg SequenceState.isTerminal (completion_state s)
    rw [hstate] at hover
    rw [firstSignal, if_pos hover] at hfirst
    cases hfirst

/-! ## §4. Runs -/

theorem settled_new (request : DataFrame) (flow : Flow) (maxRetries : UInt32) :
    (new request flow maxRetries).Settled := by
  intro hover
  cases hover

/-- **No signal ever waits for a sequence that is over.** -/
theorem Settled.runUses (hs : s.Settled) (uses : List Use) : (s.runUses uses).Settled := by
  induction uses generalizing s with
  | nil => exact hs
  | cons use rest ih => exact ih (hs.afterUse use)

/-- A signal that waits goes on waiting while the sequence goes on and no other
    signal is handed out. -/
theorem waiting_of_open (hs : s.Settled) (hn : s.signals[n]? = some .waiting)
    {uses : List Use} (hcompletion : .operate .completion ∉ uses)
    (hopen : ∀ before, before <+: uses → (s.runUses before).isTerminal = false) :
    (s.runUses uses).signals[n]? = some .waiting := by
  -- by induction on the uses; no state on the way is terminal, so it is not resolved
  induction uses generalizing s with
  | nil => exact hn
  | cons use rest ih =>
    have hnot : (s.afterUse use).isTerminal = false := hopen [use] ⟨rest, rfl⟩
    obtain ⟨next, hnext, hturn⟩ := exists_turn hs hn use
    have hwaits : next = .waiting := by
      cases hturn with
      | waits => rfl
      | superseded _ huse => exact absurd (huse ▸ List.mem_cons_self) hcompletion
      | resolves hover =>
        rw [hnot] at hover
        cases hover
    rw [hwaits] at hnext
    refine ih (hs.afterUse use) hnext (fun hmem => hcompletion (List.mem_cons_of_mem _ hmem)) ?_
    intro before hbefore
    exact hopen (use :: before) ((List.prefix_cons_inj use).mpr hbefore)

/-- A terminal state stays with its signal until it is read. -/
theorem resolved_of_not_read (hs : s.Settled) {state : SequenceState}
    (hn : s.signals[n]? = some (.resolved state)) {uses : List Use} (hread : .poll n ∉ uses) :
    (s.runUses uses).signals[n]? = some (.resolved state) := by
  induction uses generalizing s with
  | nil => exact hn
  | cons use rest ih =>
    obtain ⟨next, hnext, hturn⟩ := exists_turn hs hn use
    cases hturn with
    | stays =>
      exact ih (hs.afterUse use) hnext fun hmem => hread (List.mem_cons_of_mem _ hmem)
    | read _ huse => exact absurd (huse ▸ List.mem_cons_self) hread

/-- **A signal tells a state only once the sequence has been in it**, with the
    signal handed out by then. -/
theorem exists_end_of_resolved (hs : s.Settled) (hnone : s.signals = []) (uses : List Use)
    {state : SequenceState} (hn : (s.runUses uses).signals[n]? = some (.resolved state)) :
    state.isTerminal = true
      ∧ ∃ before, before <+: uses ∧ (s.runUses before).state = state
        ∧ n < (s.runUses before).signals.length := by
  induction uses using List.reverseRecOn with
  | nil =>
    rw [runUses_nil, hnone] at hn
    cases hn
  | append_singleton before use ih =>
    have hlt : n < (s.runUses (before ++ [use])).signals.length :=
      (List.getElem?_eq_some_iff.mp hn).1
    -- the signal is one of those before the last use, or handed out by it
    by_cases hold : n < (s.runUses before).signals.length
    · obtain ⟨next, hnext, hturn⟩ :=
        exists_turn (hs.runUses before) (List.getElem?_eq_getElem hold) use
      rw [← runUses_concat, hn, Option.some.injEq] at hnext
      subst hnext
      generalize hsignal : (s.runUses before).signals[n] = signal at hturn
      cases hturn with
      | resolves hover =>
        rw [← runUses_concat] at hover ⊢
        exact ⟨hover, before ++ [use], List.prefix_rfl, rfl, hlt⟩
      | stays =>
        -- it was resolved before this use
        obtain ⟨hterminal, part, hpart, hrest⟩ :=
          ih (by rw [List.getElem?_eq_getElem hold, hsignal])
        exact ⟨hterminal, part, hpart.trans (List.prefix_append before [use]), hrest⟩
    · rw [runUses_concat] at hn
      obtain ⟨rfl, _, hfirst⟩ := eq_of_new_signal (by omega) hn
      unfold firstSignal at hfirst
      split at hfirst
      · rename_i hover
        cases hfirst
        refine ⟨hover, before ++ [.operate .completion], List.prefix_rfl, ?_, hlt⟩
        rw [runUses_concat]
        exact completion_state (s.runUses before)
      · cases hfirst

/-- **After any uses** of a new sequence, no signal waits if it is over, and a
    signal that tells a state tells a terminal one that the sequence has been
    in.  The next signal tells the present state if the sequence is over;
    otherwise, if no other takes its place, the state in which it ends next:
    from that moment on, whatever is done, until it is read. -/
theorem signals_tell_terminal_state (request : DataFrame) (flow : Flow) (maxRetries : UInt32)
    (uses : List Use) :
    let first := new request flow maxRetries
    let s := first.runUses uses
    let n := s.completion.1
    let taken := s.completion.2
    (s.isTerminal = true → .waiting ∉ s.signals)
    ∧ (∀ m state, (s.poll m).1 = .resolved state →
        state.isTerminal = true
          ∧ ∃ before, before <+: uses ∧ (first.runUses before).state = state
            ∧ m < (first.runUses before).signals.length)
    ∧ (s.isTerminal = true →
        ∀ later, .poll n ∉ later → ((taken.runUses later).poll n).1 = .resolved s.state)
    ∧ (s.isTerminal = false →
        ∀ between last, .operate .completion ∉ between →
          (∀ part, part <+: between → (taken.runUses part).isTerminal = false) →
          let ended := taken.runUses (between ++ [last])
          ended.isTerminal = true →
            ∀ later, .poll n ∉ later →
              ((ended.runUses later).poll n).1 = .resolved ended.state) := by
  intro first s n taken
  have hs : s.Settled := (settled_new request flow maxRetries).runUses uses
  have htaken : taken.Settled := hs.afterUse (.operate .completion)
  have hfirst : taken.signals[n]? = some s.firstSignal := getElem?_completion_self s
  refine ⟨hs, ?_, ?_, ?_⟩
  · intro m state hpoll
    exact exists_end_of_resolved (settled_new request flow maxRetries) rfl uses
      (poll_eq_resolved_iff.mp hpoll)
  · intro hover later hread
    rw [firstSignal, if_pos hover] at hfirst
    exact poll_eq_resolved_iff.mpr (resolved_of_not_read htaken hfirst hread)
  · intro hopen between last hcompletion hbetween ended hover later hread
    rw [firstSignal, hopen, if_neg Bool.false_ne_true] at hfirst
    -- it still waits before the last use, which leads to the end
    have hwaits := waiting_of_open htaken hfirst hcompletion hbetween
    obtain ⟨next, hnext, hturn⟩ := exists_turn (htaken.runUses between) hwaits last
    rw [← runUses_concat] at hnext hturn
    have hnow : next = .resolved ended.state := by
      cases hturn with
      | waits hgoes => exact absurd (hgoes.symm.trans hover) Bool.false_ne_true
      | superseded hgoes => exact absurd (hgoes.symm.trans hover) Bool.false_ne_true
      | resolves => rfl
    rw [hnow] at hnext
    exact poll_eq_resolved_iff.mpr (resolved_of_not_read (htaken.runUses _) hnext hread)

/-- A first attempt that fails under a signal which has taken the place of
    another, and the second up to its start. -/
def failedOnce : List Use :=
  [.operate .completion, .operate .start, .operate .completion, .poll 0, .operate .fail,
   .operate .retry, .operate .start]

/-- The signal taken in the second attempt tells how that ends, and the one of
    the first attempt how the first did, though it is read only then. -/
theorem signals_tell_both_ends :
    let s := (new ⟨3, .request, 0x15, [], 0xE9⟩ .acknowledged 3).runUses failedOnce
    let n := s.completion.1
    let ended := s.completion.2.runUses ([.poll n] ++ [.operate .acknowledge])
    let later := [.operate .fail, .poll 1, .operate .retry]
    n = 2
    ∧ s.isTerminal = false
    ∧ ended.state = .complete
    ∧ ((ended.runUses later).poll n).1 = .resolved .complete
    ∧ (s.poll 0).1 = .closed
    ∧ (s.poll 1).1 = .resolved .failed
    ∧ SequenceState.failed.isTerminal = true := by
  intro s n ended later
  obtain ⟨_, htold, _, hnext⟩ :=
    signals_tell_terminal_state ⟨3, .request, 0x15, [], 0xE9⟩ .acknowledged 3 failedOnce
  have hfailed : (s.poll 1).1 = .resolved .failed := rfl
  refine ⟨rfl, rfl, rfl, ?_, rfl, hfailed, (htold 1 .failed hfailed).1⟩
  refine hnext rfl [.poll n] (.operate .acknowledge) (by simp) ?_ rfl later (by decide)
  intro part hpart
  obtain rfl | ⟨rest, rfl, hrest⟩ := List.prefix_cons_iff.mp hpart
  · rfl
  · rw [List.prefix_nil.mp hrest]
    rfl

end Sequence

end ZWaveHost
