/-
  ZWaveHost.Proofs.Sequence.Operation — runs of operations on a sequence.

  Operations come in any order and any number.  One that does not fit is
  refused and changes nothing, so what becomes of a sequence depends on the
  accepted ones alone.

  Main fact: an invariant that every accepted operation keeps holds after
  every run, together with the list of what was accepted (`run_induction`).
-/
import ZWaveHost.Proofs.Sequence.Transition

namespace ZWaveHost

namespace Sequence

/-! ## §1. Operations -/

/-- What can be done to a sequence. -/
inductive Operation where
  | start
  | acknowledge
  | updateResponse (response : Command)
  | updateCallback (callback : Command)
  | retry
  | fail
  | completion
  deriving DecidableEq

/-- The sequence that an operation leads to, unless it is refused. -/
def perform (s : Sequence) : Operation → Except SequenceError Sequence
  | .start => s.start
  | .acknowledge => s.acknowledge
  | .updateResponse response => s.updateResponse response
  | .updateCallback callback => s.updateCallback callback
  | .retry => .ok s.retry
  | .fail => .ok s.fail
  | .completion => .ok s.completion.2

/-- The sequence after an operation; a refused one changes nothing. -/
def after (s : Sequence) (op : Operation) : Sequence :=
  match s.perform op with
  | .ok t => t
  | .error _ => s

/-- The sequence after operations, one after the other. -/
def run (s : Sequence) (ops : List Operation) : Sequence := ops.foldl after s

/-- The operations of a run that are not refused. -/
def accepted (s : Sequence) : List Operation → List Operation
  | [] => []
  | op :: rest =>
    match s.perform op with
    | .ok t => op :: t.accepted rest
    | .error _ => s.accepted rest

section

variable {s t : Sequence} {op : Operation} {fault : SequenceError} (rest : List Operation)

theorem accepted_cons_of_ok (hop : s.perform op = .ok t) :
    s.accepted (op :: rest) = op :: t.accepted rest := by
  rw [accepted, hop]

theorem accepted_cons_of_error (hop : s.perform op = .error fault) :
    s.accepted (op :: rest) = s.accepted rest := by
  rw [accepted, hop]

end

/-! ## §2. What was passed in -/

/-- The response that an operation passes in. -/
def Operation.response? : Operation → Option Command
  | .updateResponse response => some response
  | _ => none

/-- The callback that an operation passes in. -/
def Operation.callback? : Operation → Option Command
  | .updateCallback callback => some callback
  | _ => none

/-- The responses that operations pass in. -/
def responses (ops : List Operation) : List Command := ops.filterMap Operation.response?

/-- The callbacks that operations pass in. -/
def callbacks (ops : List Operation) : List Command := ops.filterMap Operation.callback?

theorem responses_concat (ops : List Operation) (op : Operation) :
    responses (ops ++ [op]) = responses ops ++ op.response?.toList := by
  unfold responses
  rw [List.filterMap_append]
  cases op <;> rfl

theorem callbacks_concat (ops : List Operation) (op : Operation) :
    callbacks (ops ++ [op]) = callbacks ops ++ op.callback?.toList := by
  unfold callbacks
  rw [List.filterMap_append]
  cases op <;> rfl

/-! ## §3. Runs -/

/-- **What every accepted operation keeps, every run keeps**, with the list
    of what has been accepted. -/
theorem run_induction {P : List Operation → Sequence → Prop} {s : Sequence}
    {log : List Operation} (hbase : P log s)
    (hstep : ∀ log s op t, P log s → s.perform op = .ok t → P (log ++ [op]) t)
    (ops : List Operation) : P (log ++ s.accepted ops) (s.run ops) := by
  induction ops generalizing s log with
  | nil =>
    show P (log ++ []) s
    rw [List.append_nil]
    exact hbase
  | cons op rest ih =>
    show P (log ++ s.accepted (op :: rest)) ((s.after op).run rest)
    unfold accepted after
    cases hop : s.perform op with
    | ok t =>
      have hnext := ih (hstep log s op t hbase hop)
      rw [List.append_assoc] at hnext
      exact hnext
    | error fault => exact ih hbase

theorem run_concat (s : Sequence) (ops : List Operation) (op : Operation) :
    s.run (ops ++ [op]) = (s.run ops).after op := by
  simp only [run, List.foldl_append, List.foldl_cons, List.foldl_nil]

theorem perform_flow {s t : Sequence} {op : Operation} (hop : s.perform op = .ok t) :
    t.flow = s.flow := by
  cases op with
  | start =>
    obtain ⟨_, rfl⟩ := start_eq_ok_iff.mp hop
    exact enter_flow s _
  | acknowledge =>
    obtain ⟨_, next, _, rfl⟩ := acknowledge_eq_ok_iff.mp hop
    exact enter_flow s next
  | updateResponse response =>
    obtain ⟨_, next, _, rfl⟩ := updateResponse_eq_ok_iff.mp hop
    exact enter_flow _ next
  | updateCallback callback =>
    obtain ⟨_, _, rfl⟩ := updateCallback_eq_ok_iff.mp hop
    exact enter_flow _ .complete
  | retry => cases hop; rfl
  | fail => cases hop; exact enter_flow s .failed
  | completion => cases hop; exact completion_flow s

/-- No run changes the flow. -/
theorem run_flow (s : Sequence) (ops : List Operation) : (s.run ops).flow = s.flow :=
  @run_induction (fun _ t => t.flow = s.flow) s [] rfl
    (fun _ _ _ _ hflow hop => (perform_flow hop).trans hflow) ops

end Sequence

end ZWaveHost
