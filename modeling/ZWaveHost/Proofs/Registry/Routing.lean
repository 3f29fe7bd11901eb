/-
  ZWaveHost.Proofs.Registry.Routing — what the checks of a registry are worth
  when frames come in.

  Two things would go wrong with a frame only because of the registry: its
  codec cannot read at all (`Host.CannotRead`), or its command is read and then
  refused by the flow of the request that it answers (`Host.FlowRefuses`).
  Neither happens over a registry that has passed its checks, whatever happens
  to the adapter.

  Main fact: `Registry.ofEntries_routes`.
-/
import ZWaveHost.Proofs.Registry.Validation
import ZWaveHost.Proofs.Run.Invariant
import ZWaveHost.Proofs.Run.Isolation

namespace ZWaveHost

variable {π : Type} [Port π]

/-! ## §1. What a registry could do wrong -/

/-- The frames of a chunk, each with the host that it comes to. -/
def Adapter.encounters (a : Adapter π) (bytes : List UInt8) : List (Host × Frame) :=
  a.noted (fun h frame => [(h, frame)]) bytes

example : (Moment.started.adapter.encounters [0x06, 0x15]).map Prod.snd = [.ack, .nak] := rfl

/-- What every frame keeps holds wherever a frame of a chunk comes to. -/
theorem Adapter.encounters_induction {P : Host → Prop} {a : Adapter π} (hbase : P a.host)
    (hstep : ∀ frame (l : Link π) h, P h → P (Host.accept frame (l, h)).2)
    {bytes : List UInt8} {h : Host} {frame : Frame} (hmem : (h, frame) ∈ a.encounters bytes) :
    P h := by
  have hall : P (a.receive bytes).host
      ∧ ∀ seen ∈ [] ++ a.encounters bytes, P (seen : Host × Frame).1 := by
    refine Adapter.noted_induction (P := fun h (log : List (Host × Frame)) =>
      P h ∧ ∀ seen ∈ log, P seen.1) bytes ⟨hbase, fun seen hseen => by cases hseen⟩ ?_
    rintro frame l h log ⟨hh, hlog⟩
    refine ⟨hstep frame l h hh, ?_⟩
    intro seen hseen
    rcases List.mem_append.mp hseen with hold | hnew
    · exact hlog seen hold
    · rw [List.mem_singleton.mp hnew]
      exact hh
  exact hall.2 (h, frame) hmem

namespace Host

/-- A good frame has a codec, and that codec cannot read. -/
def CannotRead (h : Host) (f : DataFrame) : Prop :=
  f.isValid = true ∧ ∃ entry codec, h.registry.find? f.commandId = some entry
    ∧ entry.codecFor? f.kind = some codec ∧ codec.decode? (.ofBytes f.payload) = none

/-- The command of a frame has been read, and its flow alone keeps it from the
    request in flight: that request is refused it in a state that waits for
    it, or the command is neither unsolicited nor a callback of its flow. -/
inductive FlowRefuses (h : Host) (f : DataFrame) : Prop where
  | response {s : Sequence} {entry : Entry} {command : Command} {err : SequenceError}
      (hread : h.read? f = some (entry, command)) (hkind : f.kind = .response)
      (hs : h.inFlight = some s) (hid : s.commandId = f.commandId)
      (hstate : s.state = .waitingForResponse ∨ s.state = .waitingForAck)
      (hrefused : s.updateResponse command = .error err) : FlowRefuses h f
  | callback {s : Sequence} {entry : Entry} {command : Command} {err : SequenceError}
      (hread : h.read? f = some (entry, command)) (hkind : f.kind = .request)
      (hs : h.inFlight = some s) (hid : s.commandId = f.commandId)
      (hstate : s.state = .waitingForCallback) (hflow : entry.flow.hasCallback = true)
      (hrefused : s.updateCallback command = .error err) : FlowRefuses h f
  | stray {entry : Entry} {command : Command}
      (hread : h.read? f = some (entry, command)) (hkind : f.kind = .request)
      (hflow : entry.flow.hasCallback = false) (hunsolicited : entry.flow ≠ .unsolicited) :
      FlowRefuses h f

end Host

/-! ## §2. Registries that have passed -/

namespace Registry

/-- Each entry is found by its id, has a codec for exactly the frames of its
    flow, and reads whatever it has a codec for. -/
structure Serves (r : Registry) (entries : List Entry) : Prop where
  find?_iff : ∀ id e, r.find? id = some e ↔ e ∈ entries ∧ e.id = id
  codec_iff : ∀ e ∈ entries, ∀ kind, (e.codecFor? kind).isSome = true
    ↔ kind = .response ∧ e.flow.hasResponse = true
      ∨ kind = .request ∧ e.flow = .unsolicited
      ∨ kind = .request ∧ e.flow.hasCallback = true
  reads : ∀ e ∈ entries, ∀ kind codec, e.codecFor? kind = some codec → codec.isDecodable = true

omit [Port π] in
/-- **A registry that has passed its checks serves its entries.** -/
theorem serves_of_ofEntries {entries : List Entry} {r : Registry}
    (hr : ofEntries entries = .ok r) : r.Serves entries := by
  obtain ⟨rfl, hroutable, hids⟩ := ofEntries_eq_ok_iff.mp hr
  refine ⟨?_, ?_, ?_⟩
  · intro id e
    constructor
    · intro hfind
      have hid : e.id = id := by simpa using List.find?_some hfind
      exact ⟨List.mem_of_find?_eq_some hfind, hid⟩
    · rintro ⟨hmem, rfl⟩
      exact find?_of_mem hids hmem
  · intro e hmem kind
    exact (hroutable e hmem).codecFor?_isSome kind
  · intro e hmem kind codec hcodec
    exact (hroutable e hmem).isDecodable hcodec

end Registry

/-! ## §3. Frames that come to a host -/

omit [Port π] in
/-- A flow with a response leads on from it. -/
theorem Flow.afterResponse?_of_hasResponse {f : Flow} (hf : f.hasResponse = true) :
    ∃ next, f.afterResponse? = some next := by
  cases f <;> cases hf
  · exact ⟨_, rfl⟩
  · exact ⟨_, rfl⟩

namespace Host

variable {h : Host} {entries : List Entry}

omit [Port π] in
/-- A codec that a host finds can read. -/
theorem not_cannotRead (hserves : h.registry.Serves entries) (f : DataFrame) :
    ¬ h.CannotRead f := by
  rintro ⟨-, entry, codec, hentry, hcodec, hdecode⟩
  obtain ⟨hmem, -⟩ := (hserves.find?_iff _ _).mp hentry
  have hreads := codec.decode?_isSome (.ofBytes f.payload)
  rw [hserves.reads entry hmem f.kind codec hcodec, hdecode] at hreads
  cases hreads

omit [Port π] in
/-- What is read has one of the frames that its flow calls for. -/
theorem flow_of_read? (hserves : h.registry.Serves entries) {f : DataFrame} {entry : Entry}
    {command : Command} (hread : h.read? f = some (entry, command)) :
    f.kind = .response ∧ entry.flow.hasResponse = true
      ∨ f.kind = .request ∧ entry.flow = .unsolicited
      ∨ f.kind = .request ∧ entry.flow.hasCallback = true := by
  obtain ⟨hentry, codec, -, hcodec, -⟩ := read?_eq_some_iff.mp hread
  obtain ⟨hmem, -⟩ := (hserves.find?_iff _ _).mp hentry
  rw [← hserves.codec_iff entry hmem f.kind, hcodec]
  rfl

omit [Port π] in
/-- The request in flight has the flow of the command that is read for it. -/
theorem Registered.flow_eq (hh : h.Registered) {f : DataFrame} {s : Sequence} {entry : Entry}
    {command : Command} (hread : h.read? f = some (entry, command)) (hs : h.inFlight = some s)
    (hid : s.commandId = f.commandId) : s.flow = entry.flow := by
  obtain ⟨hentry, -⟩ := read?_eq_some_iff.mp hread
  obtain ⟨known, hknown, hflow⟩ := hh.inFlight s hs
  rw [hid, hentry] at hknown
  rw [← hflow, Option.some.inj hknown]

omit [Port π] in
/-- **The flow of a command that is read never speaks against it.** -/
theorem not_flowRefuses (hserves : h.registry.Serves entries) (hh : h.Registered)
    (f : DataFrame) : ¬ h.FlowRefuses f := by
  intro hrefuses
  cases hrefuses with
  | @response s entry command err hread hkind hs hid hstate hrefused =>
    have hflow : s.flow.hasResponse = true := by
      rw [hh.flow_eq hread hs hid]
      rcases flow_of_read? hserves hread with ⟨-, hflow⟩ | ⟨hother, -⟩ | ⟨hother, -⟩
      · exact hflow
      · rw [hkind] at hother; cases hother
      · rw [hkind] at hother; cases hother
    obtain ⟨next, hnext⟩ := Flow.afterResponse?_of_hasResponse hflow
    rw [Sequence.updateResponse_eq_ok_iff.mpr ⟨hstate, next, hnext, rfl⟩] at hrefused
    cases hrefused
  | @callback s entry command err hread hkind hs hid hstate hflow hrefused =>
    rw [← hh.flow_eq hread hs hid] at hflow
    rw [Sequence.updateCallback_eq_ok_iff.mpr ⟨hstate, hflow, rfl⟩] at hrefused
    cases hrefused
  | stray hread hkind hflow hunsolicited =>
    rcases flow_of_read? hserves hread with ⟨hother, -⟩ | ⟨-, hother⟩ | ⟨-, hother⟩
    · rw [hkind] at hother; cases hother
    · exact hunsolicited hother
    · rw [hflow] at hother; cases hother

end Host

namespace Registry

/-- **The checks of a registry are what its frames need.**  Entries make a
    registry exactly if each can be routed and no id occurs twice.  It then
    serves them, and however an adapter over it is run, no frame that comes in
    has a codec that cannot read or is refused by a flow.  Otherwise the error
    is that of the first entry that offends, its own fault before a taken id. -/
theorem ofEntries_routes (entries : List Entry) :
    ((∃ r, ofEntries entries = .ok r)
        ↔ (∀ e ∈ entries, e.Routable) ∧ (entries.map Entry.id).Nodup)
      ∧ (∀ r, ofEntries entries = .ok r →
        r.entries = entries ∧ r.Serves entries
          ∧ ∀ now (port : π) config valid events bytes h f,
            (h, Frame.data f)
                ∈ ((Moment.new now port config valid r).run events).adapter.encounters bytes →
              ¬ h.CannotRead f ∧ ¬ h.FlowRefuses f)
      ∧ ∀ err, ofEntries entries = .error err
        ↔ ∃ before e after, entries = before ++ e :: after
          ∧ (∀ e' ∈ before, e'.Routable) ∧ (before.map Entry.id).Nodup
          ∧ e.Offends before err := by
  refine ⟨?_, ?_, ?_⟩
  · constructor
    · rintro ⟨r, hr⟩
      exact (ofEntries_eq_ok_iff.mp hr).2
    · intro hgood
      exact ⟨⟨entries⟩, ofEntries_eq_ok_iff.mpr ⟨rfl, hgood⟩⟩
  · intro r hr
    have hserves := serves_of_ofEntries hr
    refine ⟨congrArg Registry.entries (ofEntries_eq_ok_iff.mp hr).1, hserves, ?_⟩
    intro now port config valid events bytes h f hmem
    have hreachable : ((Moment.new now port config valid r).run events).Reachable :=
      ⟨now, port, config, valid, r, events, rfl⟩
    -- the registry and the registered requests come through every frame of the chunk
    have hh : h.registry = r ∧ h.Registered := by
      refine Adapter.encounters_induction (P := fun h => h.registry = r ∧ h.Registered)
        ⟨Moment.registry_run _ events, hreachable.registered⟩ ?_ hmem
      rintro frame l h ⟨hregistry, hregistered⟩
      refine ⟨?_, hregistered.accept frame l⟩
      obtain ⟨_, _, _, _, heq⟩ := Host.accept_eq frame l h
      rw [heq]
      exact hregistry
    rw [← hh.1] at hserves
    exact ⟨Host.not_cannotRead hserves f, Host.not_flowRefuses hserves hh.2 f⟩
  · intro err
    rw [ofEntries_eq_error_iff]
    refine exists_congr fun before => exists_congr fun e => exists_congr fun after => ?_
    rw [ofEntries_eq_ok_iff]
    constructor
    · rintro ⟨heq, ⟨-, hroutable, hids⟩, hoffends⟩
      exact ⟨heq, hroutable, hids, hoffends⟩
    · rintro ⟨heq, hroutable, hids, hoffends⟩
      exact ⟨heq, ⟨rfl, hroutable, hids⟩, hoffends⟩

end Registry

end ZWaveHost
