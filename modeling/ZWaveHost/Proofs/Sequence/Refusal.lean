/-
  ZWaveHost.Proofs.Sequence.Refusal — what a refused operation leaves behind.

  An operation writes into its sequence as it goes.  That a refused one
  changes nothing is then no matter of course: each has to look at the state
  and at the flow before its first write.  So the operations are given here
  write by write, and shown to be those of `Sequence.perform`.

  A refused operation being nothing at all, what can be accepted between two
  retries is read off the flow: its steps, in order, from the start.

  Main statement: `refusals_leave_no_trace`.
-/
import ZWaveHost.Proofs.Sequence.Operation

namespace ZWaveHost

/-! ## §1. The way through a flow -/

namespace Flow

/-- The steps that take a request through a flow, in their order.  The ACK may
    be lost where a response follows it. -/
def paths : Flow → List (List SequenceOperation)
  | .unacknowledged | .unsolicited => [[.start]]
  | .acknowledged => [[.start, .acknowledge]]
  | .response => [[.start, .acknowledge, .updateResponse], [.start, .updateResponse]]
  | .callback => [[.start, .acknowledge, .updateCallback]]
  | .responseAndCallback =>
    [[.start, .acknowledge, .updateResponse, .updateCallback],
     [.start, .updateResponse, .updateCallback]]

/-- The steps that a state still has before it. -/
def ahead (f : Flow) : SequenceState → List (List SequenceOperation)
  | .pending => f.paths
  | .waitingForAck => f.paths.map List.tail
  | .waitingForResponse =>
    match f with
    | .response => [[.updateResponse]]
    | .responseAndCallback => [[.updateResponse, .updateCallback]]
    | _ => [[]]
  | .waitingForCallback => if f.hasCallback then [[.updateCallback]] else [[]]
  | .complete | .failed => [[]]

section Ahead

variable (f : Flow) (state : SequenceState) (path : List SequenceOperation)

theorem exists_mem_ahead : ∃ path, path ∈ f.ahead state := by
  refine List.exists_mem_of_ne_nil _ ?_
  cases state <;> cases f <;> simp [ahead, paths, hasCallback]

theorem start_cons_mem_ahead_iff :
    .start :: path ∈ f.ahead state ↔ state = .pending ∧ path ∈ f.ahead f.afterStart := by
  cases state <;> cases f <;> simp [ahead, paths, hasCallback, afterStart]

theorem acknowledge_cons_mem_ahead_iff :
    .acknowledge :: path ∈ f.ahead state
      ↔ state = .waitingForAck ∧ ∃ next, f.afterAck? = some next ∧ path ∈ f.ahead next := by
  cases state <;> cases f <;> simp [ahead, paths, hasCallback, afterAck?]

theorem updateResponse_cons_mem_ahead_iff :
    .updateResponse :: path ∈ f.ahead state
      ↔ (state = .waitingForResponse ∨ state = .waitingForAck)
        ∧ ∃ next, f.afterResponse? = some next ∧ path ∈ f.ahead next := by
  cases state <;> cases f <;> simp [ahead, paths, hasCallback, afterResponse?]

theorem updateCallback_cons_mem_ahead_iff :
    .updateCallback :: path ∈ f.ahead state
      ↔ state = .waitingForCallback ∧ f.hasCallback = true ∧ path ∈ f.ahead .complete := by
  cases state <;> cases f <;> simp [ahead, paths, hasCallback]

end Ahead

end Flow

namespace Sequence

/-- The step that an operation is; the others may be done in every state. -/
def Operation.step? : Operation → Option SequenceOperation
  | .start => some .start
  | .acknowledge => some .acknowledge
  | .updateResponse _ => some .updateResponse
  | .updateCallback _ => some .updateCallback
  | .retry | .fail | .completion => none

/-- The steps among operations. -/
def steps (ops : List Operation) : List SequenceOperation := ops.filterMap Operation.step?

/-! ## §2. Operations in place -/

/-- Reads and writes one sequence; a refusal ends it and takes back nothing
    that has been written. -/
abbrev Edit (α : Type) : Type := ExceptT SequenceError (StateM Sequence) α

namespace Edit

/-- Ends with the error of an operation in the present state. -/
def refuse {α : Type} (operation : SequenceOperation) : Edit α := do
  throw ⟨(← get).state, operation⟩

/-- Writes a state; a terminal one resolves the waiting signal. -/
def enter (state : SequenceState) : Edit Unit := do
  modify fun s => { s with state := state }
  if state.isTerminal then
    modify fun s => { s with signals := s.signals.map (resolveWith state) }

def start : Edit Unit := do
  if (← get).state ≠ .pending then refuse .start
  match (← get).flow with
  | .unacknowledged => enter .complete
  | _ => enter .waitingForAck

def acknowledge : Edit Unit := do
  if (← get).state ≠ .waitingForAck then refuse .acknowledge
  let next ← match (← get).flow with
    | .acknowledged => pure .complete
    | .response | .responseAndCallback => pure .waitingForResponse
    | .callback => pure .waitingForCallback
    | .unacknowledged | .unsolicited => refuse .acknowledge
  enter next

def updateResponse (response : Command) : Edit Unit := do
  let state := (← get).state
  if state ≠ .waitingForResponse ∧ state ≠ .waitingForAck then refuse .updateResponse
  let next ← match (← get).flow with
    | .response => pure .complete
    | .responseAndCallback => pure .waitingForCallback
    | _ => refuse .updateResponse
  modify fun s => { s with response := some response }
  enter next

def updateCallback (callback : Command) : Edit Unit := do
  if (← get).state ≠ .waitingForCallback then refuse .updateCallback
  match (← get).flow with
  | .callback | .responseAndCallback =>
    modify fun s => { s with callback := some callback }
    enter .complete
  | _ => refuse .updateCallback

def retry : Edit Unit := do
  modify fun s => { s with attempt := s.attempt + 1 }
  modify fun s => { s with state := .pending }

/-- Hands out a signal; a pending one gives way to it. -/
def completion : Edit Nat := do
  let signal := (← get).signals.length
  let state := (← get).state
  if state.isTerminal then
    modify fun s => { s with signals := s.signals ++ [.resolved state] }
  else
    modify fun s => { s with signals := s.signals.map supersede ++ [.waiting] }
  return signal

end Edit

/-- An operation in place; its answer is the signal that it hands out. -/
def Operation.edit : Operation → Edit (Option Nat)
  | .start => do Edit.start; return none
  | .acknowledge => do Edit.acknowledge; return none
  | .updateResponse response => do Edit.updateResponse response; return none
  | .updateCallback callback => do Edit.updateCallback callback; return none
  | .retry => do Edit.retry; return none
  | .fail => do Edit.enter .failed; return none
  | .completion => return some (← Edit.completion)

/-- What an operation answers, and the sequence that it leaves behind. -/
def carryOut (s : Sequence) (op : Operation) : Except SequenceError (Option Nat) × Sequence :=
  op.edit.run s

/-- The answers of operations, one after the other, and the last sequence. -/
def carryOutAll (s : Sequence) : List Operation →
    List (Except SequenceError (Option Nat)) × Sequence
  | [] => ([], s)
  | op :: rest =>
    let (answer, t) := s.carryOut op
    let (answers, last) := t.carryOutAll rest
    (answer :: answers, last)

/-- The signal that an operation hands out. -/
def handedOut (s : Sequence) : Operation → Option Nat
  | .completion => some s.completion.1
  | _ => none

variable {s t : Sequence} {op : Operation} {fault : SequenceError}

/-- **In place, an operation does what it does by value**, and refuses where it
    does with the sequence as it was. -/
theorem carryOut_eq (s : Sequence) (op : Operation) :
    s.carryOut op = match s.perform op with
      | .ok t => (.ok (s.handedOut op), t)
      | .error fault => (.error fault, s) := by
  -- both sides can be run once the state and the flow are known
  obtain ⟨request, flow, state, attempt, maxRetries, response, callback, signals⟩ := s
  cases op with
  | start => cases state <;> cases flow <;> rfl
  | acknowledge => cases state <;> cases flow <;> rfl
  | updateResponse => cases state <;> cases flow <;> rfl
  | updateCallback => cases state <;> cases flow <;> rfl
  | retry => rfl
  | fail => rfl
  | completion => cases state <;> rfl

/-- An error tells the state and the step that do not fit. -/
theorem perform_error (hop : s.perform op = .error fault) :
    fault.state = s.state ∧ op.step? = some fault.operation := by
  obtain ⟨request, flow, state, attempt, maxRetries, response, callback, signals⟩ := s
  cases op with
  | start => cases state <;> cases flow <;> cases hop <;> exact ⟨rfl, rfl⟩
  | acknowledge => cases state <;> cases flow <;> cases hop <;> exact ⟨rfl, rfl⟩
  | updateResponse => cases state <;> cases flow <;> cases hop <;> exact ⟨rfl, rfl⟩
  | updateCallback => cases state <;> cases flow <;> cases hop <;> exact ⟨rfl, rfl⟩
  | retry => cases hop
  | fail => cases hop
  | completion => cases hop

/-- **A refused operation leaves the sequence that it found**, and tells its
    state. -/
theorem carryOut_of_refused (hrefused : (s.carryOut op).1 = .error fault) :
    (s.carryOut op).2 = s ∧ fault.state = s.state ∧ op.step? = some fault.operation := by
  rw [carryOut_eq] at hrefused ⊢
  cases hop : s.perform op with
  | ok t =>
    rw [hop] at hrefused
    cases hrefused
  | error other =>
    rw [hop] at hrefused
    cases hrefused
    exact ⟨rfl, perform_error hop⟩

/-! ## §3. Runs without the refused operations -/

section

variable (rest : List Operation)

theorem carryOutAll_cons_of_ok (hop : s.perform op = .ok t) :
    s.carryOutAll (op :: rest)
      = (.ok (s.handedOut op) :: (t.carryOutAll rest).1, (t.carryOutAll rest).2) := by
  have hout := carryOut_eq s op
  rw [hop] at hout
  rw [carryOutAll, hout]

theorem carryOutAll_cons_of_error (hop : s.perform op = .error fault) :
    s.carryOutAll (op :: rest)
      = (.error fault :: (s.carryOutAll rest).1, (s.carryOutAll rest).2) := by
  have hout := carryOut_eq s op
  rw [hop] at hout
  rw [carryOutAll, hout]

end

theorem carryOutAll_run (s : Sequence) (ops : List Operation) :
    (s.carryOutAll ops).2 = s.run ops := by
  induction ops generalizing s with
  | nil => rfl
  | cons op rest ih =>
    show _ = (s.after op).run rest
    unfold after
    cases hop : s.perform op with
    | ok t =>
      rw [carryOutAll_cons_of_ok rest hop]
      exact ih t
    | error fault =>
      rw [carryOutAll_cons_of_error rest hop]
      exact ih s

/-- The accepted operations are those whose answer is not an error. -/
theorem accepted_eq_filter (s : Sequence) (ops : List Operation) :
    s.accepted ops
      = ((ops.zip (s.carryOutAll ops).1).filter (·.2.isOk)).map Prod.fst := by
  induction ops generalizing s with
  | nil => rfl
  | cons op rest ih =>
    cases hop : s.perform op with
    | ok t =>
      rw [accepted_cons_of_ok rest hop, carryOutAll_cons_of_ok rest hop, ih t]
      rfl
    | error fault =>
      rw [accepted_cons_of_error rest hop, carryOutAll_cons_of_error rest hop, ih s]
      rfl

/-- **Without the refused operations** the answers of the others and the last
    sequence are the same. -/
theorem carryOutAll_accepted (s : Sequence) (ops : List Operation) :
    s.carryOutAll (s.accepted ops)
      = ((s.carryOutAll ops).1.filter Except.isOk, (s.carryOutAll ops).2) := by
  induction ops generalizing s with
  | nil => rfl
  | cons op rest ih =>
    cases hop : s.perform op with
    | ok t =>
      rw [accepted_cons_of_ok rest hop, carryOutAll_cons_of_ok _ hop,
        carryOutAll_cons_of_ok rest hop, ih t]
      rfl
    | error fault =>
      rw [accepted_cons_of_error rest hop, carryOutAll_cons_of_error rest hop, ih s]
      rfl

/-! ## §4. The steps between two retries -/

/-- **A step is accepted** exactly if a way ahead begins with it, and leaves
    what follows it on that way. -/
theorem cons_mem_ahead_iff {step : SequenceOperation} {path : List SequenceOperation}
    (hstep : op.step? = some step) :
    step :: path ∈ s.flow.ahead s.state
      ↔ ∃ t, s.perform op = .ok t ∧ path ∈ t.flow.ahead t.state := by
  cases op with
  | start =>
    cases hstep
    show _ ↔ ∃ t, s.start = .ok t ∧ _
    simp [Flow.start_cons_mem_ahead_iff, start_eq_ok_iff, and_assoc]
  | acknowledge =>
    cases hstep
    show _ ↔ ∃ t, s.acknowledge = .ok t ∧ _
    simp only [Flow.acknowledge_cons_mem_ahead_iff, acknowledge_eq_ok_iff]
    constructor
    · rintro ⟨hstate, next, hafter, hpath⟩
      refine ⟨s.enter next, ⟨hstate, next, hafter, rfl⟩, ?_⟩
      simpa using hpath
    · rintro ⟨_, ⟨hstate, next, hafter, rfl⟩, hpath⟩
      refine ⟨hstate, next, hafter, ?_⟩
      simpa using hpath
  | updateResponse response =>
    cases hstep
    show _ ↔ ∃ t, s.updateResponse response = .ok t ∧ _
    simp only [Flow.updateResponse_cons_mem_ahead_iff, updateResponse_eq_ok_iff]
    constructor
    · rintro ⟨hstate, next, hafter, hpath⟩
      refine ⟨_, ⟨hstate, next, hafter, rfl⟩, ?_⟩
      simpa using hpath
    · rintro ⟨_, ⟨hstate, next, hafter, rfl⟩, hpath⟩
      refine ⟨hstate, next, hafter, ?_⟩
      simpa using hpath
  | updateCallback callback =>
    cases hstep
    show _ ↔ ∃ t, s.updateCallback callback = .ok t ∧ _
    simp [Flow.updateCallback_cons_mem_ahead_iff, updateCallback_eq_ok_iff, and_assoc]
  | retry => cases hstep
  | fail => cases hstep
  | completion => cases hstep

/-- Any other operation, short of a retry, opens no way that was not ahead. -/
theorem exists_prefix_mem_ahead {path : List SequenceOperation} (hstep : op.step? = none)
    (hretry : op ≠ .retry) (hop : s.perform op = .ok t) (hpath : path ∈ t.flow.ahead t.state) :
    ∃ longer ∈ s.flow.ahead s.state, path <+: longer := by
  cases op with
  | fail =>
    cases hop
    rw [fail, enter_state] at hpath
    obtain ⟨longer, hlonger⟩ := s.flow.exists_mem_ahead s.state
    refine ⟨longer, hlonger, ?_⟩
    rw [List.mem_singleton.mp hpath]
    exact List.nil_prefix
  | completion =>
    cases hop
    rw [completion_flow, completion_state] at hpath
    exact ⟨path, hpath, List.prefix_rfl⟩
  | retry => exact absurd rfl hretry
  | start => cases hstep
  | acknowledge => cases hstep
  | updateResponse => cases hstep
  | updateCallback => cases hstep

/-- **Short of a retry, the accepted steps lie on one way ahead**, from its
    beginning. -/
theorem exists_steps_accepted_prefix (s : Sequence) {ops : List Operation}
    (hretry : .retry ∉ ops) :
    ∃ path ∈ s.flow.ahead s.state, steps (s.accepted ops) <+: path := by
  -- by induction on the operations; the way is built from its end
  induction ops generalizing s with
  | nil =>
    obtain ⟨path, hpath⟩ := s.flow.exists_mem_ahead s.state
    exact ⟨path, hpath, List.nil_prefix⟩
  | cons op rest ih =>
    have hne : op ≠ .retry := fun heq => hretry (heq ▸ List.mem_cons_self)
    have hrest : .retry ∉ rest := fun hmem => hretry (List.mem_cons_of_mem _ hmem)
    cases hop : s.perform op with
    | error fault =>
      rw [accepted_cons_of_error rest hop]
      exact ih s hrest
    | ok t =>
      rw [accepted_cons_of_ok rest hop]
      obtain ⟨path, hpath, hprefix⟩ := ih t hrest
      cases hstep : op.step? with
      | some step =>
        -- the step goes before the way that is ahead of the next state
        refine ⟨step :: path, (cons_mem_ahead_iff hstep).mpr ⟨t, hop, hpath⟩, ?_⟩
        rw [steps, List.filterMap_cons_some hstep]
        exact (List.prefix_cons_inj step).mpr hprefix
      | none =>
        obtain ⟨longer, hlonger, hpre⟩ := exists_prefix_mem_ahead hstep hne hop hpath
        refine ⟨longer, hlonger, ?_⟩
        rw [steps, List.filterMap_cons_none hstep]
        exact hprefix.trans hpre

/-- **A way ahead can be gone to its end.** -/
theorem accepted_of_mem_ahead (s : Sequence) {path : List SequenceOperation}
    (hpath : path ∈ s.flow.ahead s.state) {ops : List Operation}
    (hops : ops.map Operation.step? = path.map some) : s.accepted ops = ops := by
  induction ops generalizing s path with
  | nil => rfl
  | cons op rest ih =>
    cases path with
    | nil => cases hops
    | cons step path =>
      rw [List.map_cons, List.map_cons, List.cons.injEq] at hops
      obtain ⟨t, hop, hahead⟩ := (cons_mem_ahead_iff hops.1).mp hpath
      rw [accepted_cons_of_ok rest hop, ih t hahead hops.2]

/-! ## §5. All runs -/

/-- **A refused operation leaves no trace** but its error, which tells the state
    that it was tried in: not in the sequence, and not in what follows.  Between
    two retries the accepted steps go along the flow from its start, in order
    and without a gap; and they may go all the way. -/
theorem refusals_leave_no_trace (s : Sequence) (ops : List Operation) :
    (∀ op fault, (s.carryOut op).1 = .error fault →
      (s.carryOut op).2 = s ∧ fault.state = s.state ∧ op.step? = some fault.operation)
    ∧ s.accepted ops = ((ops.zip (s.carryOutAll ops).1).filter (·.2.isOk)).map Prod.fst
    ∧ s.carryOutAll (s.accepted ops)
        = ((s.carryOutAll ops).1.filter Except.isOk, (s.carryOutAll ops).2)
    ∧ (∀ before between, .retry ∉ between →
        ∃ path ∈ s.flow.paths,
          steps ((s.carryOutAll (before ++ [.retry])).2.accepted between) <+: path)
    ∧ (s.state = .pending → .retry ∉ ops →
        ∃ path ∈ s.flow.paths, steps (s.accepted ops) <+: path)
    ∧ (s.state = .pending →
        ∀ path ∈ s.flow.paths, ops.map Operation.step? = path.map some → s.accepted ops = ops) := by
  refine ⟨fun op fault => carryOut_of_refused, accepted_eq_filter s ops,
    carryOutAll_accepted s ops, ?_, ?_, ?_⟩
  · intro before between hretry
    rw [carryOutAll_run, run_concat]
    have hprefix := exists_steps_accepted_prefix (s.run before).retry hretry
    rw [show (s.run before).retry.flow = s.flow from run_flow s before] at hprefix
    exact hprefix
  · intro hpending hretry
    have hprefix := exists_steps_accepted_prefix s hretry
    rw [hpending] at hprefix
    exact hprefix
  · intro hpending path hpath hops
    refine accepted_of_mem_ahead s ?_ hops
    rw [hpending]
    exact hpath

/-- A first attempt with an ACK too many. -/
def acknowledgedTwice : List Operation := [.start, .acknowledge, .acknowledge]

/-- A second attempt whose ACK comes behind the response, and is too late. -/
def acknowledgedLate : List Operation :=
  [.start, .updateResponse (.sendDataAccepted ⟨true⟩), .acknowledge,
   .updateCallback (.setDefaultComplete ⟨7⟩)]

/-- The ACK too many leaves no trace, and neither does the late one: the steps
    of the second attempt are a whole way through the flow. -/
theorem refused_acks_leave_no_trace :
    let s := new ⟨3, .request, 0x13, [], 0xEF⟩ .responseAndCallback 3
    let ops := acknowledgedTwice ++ .retry :: acknowledgedLate
    let second := (s.carryOutAll (acknowledgedTwice ++ [.retry])).2
    (s.carryOut .acknowledge).1 = .error ⟨.pending, .acknowledge⟩
    ∧ (s.carryOut .acknowledge).2 = s
    ∧ (s.carryOutAll ops).1.length = 8
    ∧ s.carryOutAll (s.accepted ops) = (List.replicate 6 (.ok none), (s.carryOutAll ops).2)
    ∧ .retry ∉ acknowledgedLate
    ∧ ∃ path ∈ s.flow.paths, steps (second.accepted acknowledgedLate) <+: path
      ∧ steps (second.accepted acknowledgedLate) = [.start, .updateResponse, .updateCallback] := by
  intro s ops second
  have hrefused : (s.carryOut .acknowledge).1 = .error ⟨.pending, .acknowledge⟩ := rfl
  have hretry : .retry ∉ acknowledgedLate := by decide
  obtain ⟨hkept, _, hrest, hbetween, _⟩ := refusals_leave_no_trace s ops
  have hanswers : (s.carryOutAll ops).1.filter Except.isOk = List.replicate 6 (.ok none) := rfl
  rw [hanswers] at hrest
  obtain ⟨path, hpath, hprefix⟩ := hbetween acknowledgedTwice acknowledgedLate hretry
  exact ⟨hrefused, (hkept _ _ hrefused).1, rfl, hrest, hretry, path, hpath, hprefix, rfl⟩

end Sequence

end ZWaveHost
