/-
  ZWaveHost.Proofs.Run.History — the moments that a new adapter comes to.

  An adapter is made from valid settings, and then events happen to it in
  whatever order (`Moment.run`).  What is noted of each event makes up the
  notes of the run (`Moment.notes`).

  Main fact: what holds of a new adapter and is kept by every event holds of
  every moment that can be reached (`Reachable.induction`), and so it does
  together with the notes of the run (`run_induction`).
-/
import ZWaveHost.Proofs.Run.Event

namespace ZWaveHost

namespace Moment

variable {π : Type} [Port π]

/-! ## §1. Runs -/

/-- An adapter that has just been made. -/
def new (now : Nat) (port : π) (config : Config) (valid : config.Valid) (registry : Registry) :
    Moment π where
  now := now
  adapter := ⟨.new port config.timeout, .new config valid registry⟩

omit [Port π] in
/-- Settings that are accepted make a new adapter. -/
theorem eq_new_of_create {port : π} {config : Config} {registry : Registry} {a : Adapter π}
    (h : Adapter.create port config registry = .ok a) (now : Nat) :
    ∃ valid, (⟨now, a⟩ : Moment π) = new now port config valid registry := by
  unfold Adapter.create at h
  split at h
  · cases h
  · next hvalid =>
    refine ⟨Config.valid_of_validate hvalid, ?_⟩
    rw [← Except.ok.inj h]
    rfl

/-- The moment after events, one after the other. -/
def run (m : Moment π) (events : List (Event π)) : Moment π := events.foldl after m

/-- What is noted of events, one after the other. -/
def notes {ν : Type} (note : Moment π → Event π → List ν) (m : Moment π) :
    List (Event π) → List ν
  | [] => []
  | event :: rest => note m event ++ notes note (m.after event) rest

/-- **What every event keeps, every run keeps**, together with its notes. -/
theorem run_induction {ν : Type} {note : Moment π → Event π → List ν}
    {P : List ν → Moment π → Prop}
    (hstep : ∀ log m event, P log m → P (log ++ note m event) (m.after event))
    (events : List (Event π)) {log : List ν} {m : Moment π} (hbase : P log m) :
    P (log ++ m.notes note events) (m.run events) := by
  -- the moment and its notes grow together, so both are general
  induction events generalizing log m with
  | nil =>
    show P (log ++ []) m
    rw [List.append_nil]
    exact hbase
  | cons event rest ih =>
    have hnext := ih (hstep log m event hbase)
    rw [List.append_assoc] at hnext
    exact hnext

section

variable {ν : Type} {note : Moment π → Event π → List ν} {m : Moment π}

theorem notes_append (before later : List (Event π)) :
    m.notes note (before ++ later) = m.notes note before ++ (m.run before).notes note later := by
  induction before generalizing m with
  | nil => rfl
  | cons event rest ih =>
    show note m event ++ (m.after event).notes note (rest ++ later) = _
    rw [ih, ← List.append_assoc]
    rfl

/-- **Every note is one of an event**, at the moment that the run has come to. -/
theorem exists_of_mem_notes {events : List (Event π)} {n : ν} (hmem : n ∈ m.notes note events) :
    ∃ before event later, events = before ++ event :: later
      ∧ n ∈ note (m.run before) event := by
  induction events generalizing m with
  | nil => cases hmem
  | cons event rest ih =>
    rcases List.mem_append.mp hmem with hfirst | hrest
    · exact ⟨[], event, rest, rfl, hfirst⟩
    · obtain ⟨before, event', later, rfl, hlater⟩ := ih hrest
      exact ⟨event :: before, event', later, rfl, hlater⟩

/-- If anything is noted of a run, there is a first event of which it is. -/
theorem exists_first_note {events : List (Event π)} (hnotes : m.notes note events ≠ []) :
    ∃ before event later, events = before ++ event :: later ∧ m.notes note before = []
      ∧ note (m.run before) event ≠ [] := by
  induction events generalizing m with
  | nil => exact absurd rfl hnotes
  | cons event rest ih =>
    by_cases hfirst : note m event = []
    · have hrest : (m.after event).notes note rest ≠ [] := by
        intro hnone
        apply hnotes
        show note m event ++ (m.after event).notes note rest = []
        rw [hfirst, hnone]
        rfl
      obtain ⟨before, event', later, rfl, hnone, hlater⟩ := ih hrest
      refine ⟨event :: before, event', later, rfl, ?_, hlater⟩
      show note m event ++ (m.after event).notes note before = []
      rw [hfirst, hnone]
      rfl
    · exact ⟨[], event, rest, rfl, rfl, hfirst⟩

end

/-! ## §2. Moments that can be reached -/

/-- A moment that a new adapter may come to. -/
def Reachable (m : Moment π) : Prop :=
  ∃ now port config valid registry events, m = (new now port config valid registry).run events

namespace Reachable

variable {m : Moment π}

theorem run (hm : m.Reachable) (events : List (Event π)) : (m.run events).Reachable := by
  obtain ⟨now, port, config, valid, registry, before, rfl⟩ := hm
  exact ⟨now, port, config, valid, registry, before ++ events, List.foldl_append.symm⟩

theorem after (hm : m.Reachable) (event : Event π) : (m.after event).Reachable := hm.run [event]

/-- **An invariant** holds of every moment that can be reached. -/
theorem induction {P : Moment π → Prop}
    (hnew : ∀ now port config valid registry, P (new now port config valid registry))
    (hstep : ∀ m event, P m → P (m.after event)) (hm : m.Reachable) : P m := by
  obtain ⟨now, port, config, valid, registry, events, rfl⟩ := hm
  have hbase := hnew now port config valid registry
  generalize new now port config valid registry = first at hbase ⊢
  induction events generalizing first with
  | nil => exact hbase
  | cons event rest ih => exact ih (first.after event) (hstep first event hbase)

end Reachable

/-- A started adapter with the default settings and the standard registry. -/
def started : Moment ScriptedPort :=
  (new 0 {} .default Config.valid_default .standard).after .start

theorem reachable_started : started.Reachable :=
  ⟨0, {}, .default, Config.valid_default, .standard, [.start], rfl⟩

end Moment

end ZWaveHost
