/-
  ZWaveHost.Proofs.Command.SessionIds — the session ids of requests and
  callbacks.

  Three requests carry a session id, and the callbacks of the three carry one
  back as their first byte.

  Main facts: the session id of a command is the first byte of the payload
  that it was read from (`Host.head?_of_read?`), and with the standard registry
  whatever is read as a callback of such a request has one
  (`Host.exists_session_of_read?`).
-/
import ZWaveHost.Proofs.Command.Reading
import ZWaveHost.Proofs.Run.Isolation

namespace ZWaveHost

/-! ## §1. Session ids -/

/-- The session id of a request, if it carries one. -/
def Request.session? : Request → Option UInt8
  | .sendData _ _ _ sessionId => some sessionId
  | .setDefault sessionId => some sessionId
  | .sendNop _ _ sessionId => some sessionId
  | _ => none

/-- The session id of a command, if it is a callback that carries one. -/
def Command.session? : Command → Option UInt8
  | .sendDataComplete complete => some complete.sessionId
  | .setDefaultComplete complete => some complete.sessionId
  | .sendNopComplete complete => some complete.sessionId
  | _ => none

/-- The session id of the callback in an outcome. -/
def Outcome.session? (o : Outcome) : Option UInt8 := o.callback.bind Command.session?

/-! ## §2. Commands with a session id -/

theorem TxReport.head?_of_decode {payload : List UInt8} {report : TxReport} {unread : Buffer}
    (hrun : TxReport.decode.run (.ofBytes payload) = (.ok report, unread)) :
    payload.head? = some report.sessionId := by
  obtain ⟨sessionId, between, hfirst, hrest⟩ := Decode.exists_of_run_bind hrun
  obtain ⟨status, _, _, hrest⟩ := Decode.exists_of_run_bind hrest
  obtain ⟨bytes, _, _, hrest⟩ := Decode.exists_of_run_bind hrest
  have hsession : sessionId = report.sessionId := by
    cases hrest
    rfl
  rw [← hsession]
  exact Buffer.head?_of_next hfirst

namespace Command

/-- **The session id of a command** is the first byte of its payload. -/
theorem head?_of_session? {kind : CommandKind} {payload : List UInt8} {command : Command}
    {unread : Buffer} (hrun : (Command.decode kind).run (.ofBytes payload) = (.ok command, unread))
    {session : UInt8} (hsession : command.session? = some session) :
    payload.head? = some session := by
  cases kind with
  | sendDataComplete =>
    obtain ⟨complete, hread, rfl⟩ := Decode.exists_of_run_map hrun
    obtain ⟨report, hreport, rfl⟩ := Decode.exists_of_run_map hread
    cases hsession
    exact TxReport.head?_of_decode hreport
  | sendNopComplete =>
    obtain ⟨complete, hread, rfl⟩ := Decode.exists_of_run_map hrun
    obtain ⟨report, hreport, rfl⟩ := Decode.exists_of_run_map hread
    cases hsession
    exact TxReport.head?_of_decode hreport
  | setDefaultComplete =>
    obtain ⟨complete, hread, rfl⟩ := Decode.exists_of_run_map hrun
    obtain ⟨byte, hbyte, rfl⟩ := Decode.exists_of_run_map hread
    cases hsession
    exact Buffer.head?_of_next hbyte
  | _ =>
    -- a command of any other kind has none
    obtain ⟨value, _, rfl⟩ := Decode.exists_of_run_map hrun
    cases hsession

/-- The kinds of command that carry a session id. -/
def sessionKinds : List CommandKind := [.sendDataComplete, .setDefaultComplete, .sendNopComplete]

/-- Whatever is read as a command of these kinds does carry one. -/
theorem exists_session {kind : CommandKind} (hkind : kind ∈ sessionKinds) {payload unread : Buffer}
    {command : Command} (hrun : (Command.decode kind).run payload = (.ok command, unread)) :
    ∃ session, command.session? = some session := by
  simp only [sessionKinds, List.mem_cons, List.not_mem_nil, or_false] at hkind
  rcases hkind with rfl | rfl | rfl <;>
  · obtain ⟨complete, _, rfl⟩ := Decode.exists_of_run_map hrun
    exact ⟨_, rfl⟩

end Command

/-- A request that carries a session id has an entry in the standard registry,
    and its callback carries one too. -/
theorem Request.standard_entry {request : Request} {session : UInt8}
    (hsession : request.session? = some session) :
    ∃ entry kind, Registry.standard.find? request.commandId = some entry
      ∧ entry.flow.hasCallback = true
      ∧ entry.codecFor? .request = some (.decodable kind) ∧ kind ∈ Command.sessionKinds := by
  cases request with
  | sendData nodeId data options sessionId => exact ⟨_, _, rfl, rfl, rfl, by decide⟩
  | setDefault sessionId => exact ⟨_, _, rfl, rfl, rfl, by decide⟩
  | sendNop nodeId options sessionId => exact ⟨_, _, rfl, rfl, rfl, by decide⟩
  | _ => cases hsession

namespace Host

variable {h : Host} {f : DataFrame} {entry : Entry} {command : Command}

/-- **A frame that is read as a callback** has the session id of the command as
    its first byte. -/
theorem head?_of_read? (hread : h.read? f = some (entry, command)) {session : UInt8}
    (hsession : command.session? = some session) : f.payload.head? = some session := by
  obtain ⟨_, codec, unread, _, hdecode⟩ := read?_eq_some_iff.mp hread
  obtain ⟨kind, _, hrun⟩ := Option.map_eq_some_iff.mp hdecode
  exact Command.head?_of_session? hrun hsession

/-- With the standard registry, a request that carries a session id is called
    back with a command that carries one too. -/
theorem exists_session_of_read? (hstandard : h.registry = .standard) {request : Request}
    {session : UInt8} (hsession : request.session? = some session) (hkind : f.kind = .request)
    (hid : f.commandId = request.commandId) (hread : h.read? f = some (entry, command)) :
    ∃ id, command.session? = some id := by
  obtain ⟨found, kind, hfound, _, hcodec, hsessions⟩ := Request.standard_entry hsession
  have hentry : h.registry.find? f.commandId = some found := by
    rw [hstandard, hid]
    exact hfound
  obtain ⟨unread, hdecode⟩ := read?_decodes hentry (hkind ▸ hcodec) hread
  have hrun : (Command.decode kind).run (.ofBytes f.payload) = (.ok command, unread) :=
    Option.some.inj hdecode
  exact Command.exists_session hsessions hrun

end Host

end ZWaveHost
