/-
  ZWaveHost.Proofs.Registry.Validation — which lists of entries make a
  registry, and why the others do not.

  What the checks ask of an entry is said without them (`Entry.Routable`), and
  so is the fault that they report (`Entry.Fault`).  A registry is built entry
  by entry, so a list of entries fails at the first one that offends.

  Main facts: `Entry.validate_eq_ok_iff` and `validate_eq_error_iff` for one
  entry, `Registry.ofEntries_eq_ok_iff` and `ofEntries_eq_error_iff` for a list.
-/
import Mathlib.Data.List.Induction
import Mathlib.Data.List.Nodup
import ZWaveHost.Registry.Standard

namespace ZWaveHost

/-! ## §1. What is asked of an entry -/

namespace Entry

/-- Codecs are where the flow needs them and only there, and what comes in
    can be read. -/
structure Routable (e : Entry) : Prop where
  response : e.response.isSome = e.flow.hasResponse
  callback : e.callback.isSome = e.flow.hasCallback
  readsResponse : ∀ codec, e.response = some codec → codec.isDecodable = true
  readsCallback : ∀ codec, e.callback = some codec → codec.isDecodable = true
  readsRequest : e.flow = .unsolicited → e.request.isDecodable = true

/-- The fault that is reported of an entry.  The response codec is looked at
    first, the callback codec next, and only then whether the codecs can read;
    of those that cannot it is the first. -/
inductive Fault (e : Entry) : RegistryError → Prop where
  | missingResponse (hflow : e.flow.hasResponse = true) (hcodec : e.response = none) :
      Fault e (.missingResponseCodec e.id e.flow)
  | unexpectedResponse (hflow : e.flow.hasResponse = false) (hcodec : e.response ≠ none) :
      Fault e (.unexpectedResponseCodec e.id e.flow)
  | missingCallback (hresponse : e.response.isSome = e.flow.hasResponse)
      (hflow : e.flow.hasCallback = true) (hcodec : e.callback = none) :
      Fault e (.missingCallbackCodec e.id e.flow)
  | unexpectedCallback (hresponse : e.response.isSome = e.flow.hasResponse)
      (hflow : e.flow.hasCallback = false) (hcodec : e.callback ≠ none) :
      Fault e (.unexpectedCallbackCodec e.id e.flow)
  | undecodable {before : List Codec} {codec : Codec} {after : List Codec}
      (hresponse : e.response.isSome = e.flow.hasResponse)
      (hcallback : e.callback.isSome = e.flow.hasCallback)
      (hcodecs : e.inboundCodecs = before ++ codec :: after)
      (hbefore : ∀ c ∈ before, c.isDecodable = true) (hcodec : codec.isDecodable = false) :
      Fault e (.notDecodable e.id codec.name)

variable {e : Entry} {err : RegistryError}

/-! ## §2. The checks of an entry -/

theorem checkResponse_eq_ok_iff :
    e.checkResponse = .ok () ↔ e.response.isSome = e.flow.hasResponse := by
  unfold checkResponse
  cases e.flow.hasResponse <;> cases e.response <;> simp

theorem checkResponse_eq_error_iff :
    e.checkResponse = .error err
      ↔ e.flow.hasResponse = true ∧ e.response = none
          ∧ err = .missingResponseCodec e.id e.flow
        ∨ e.flow.hasResponse = false ∧ e.response ≠ none
          ∧ err = .unexpectedResponseCodec e.id e.flow := by
  unfold checkResponse
  cases e.flow.hasResponse <;> cases e.response <;> simp [eq_comm]

theorem checkCallback_eq_ok_iff :
    e.checkCallback = .ok () ↔ e.callback.isSome = e.flow.hasCallback := by
  unfold checkCallback
  cases e.flow.hasCallback <;> cases e.callback <;> simp

theorem checkCallback_eq_error_iff :
    e.checkCallback = .error err
      ↔ e.flow.hasCallback = true ∧ e.callback = none
          ∧ err = .missingCallbackCodec e.id e.flow
        ∨ e.flow.hasCallback = false ∧ e.callback ≠ none
          ∧ err = .unexpectedCallbackCodec e.id e.flow := by
  unfold checkCallback
  cases e.flow.hasCallback <;> cases e.callback <;> simp [eq_comm]

/-- The codecs that read what comes in, one by one. -/
theorem mem_inboundCodecs_iff {codec : Codec} :
    codec ∈ e.inboundCodecs
      ↔ e.response = some codec ∨ e.callback = some codec
        ∨ e.flow = .unsolicited ∧ e.request = codec := by
  unfold inboundCodecs
  rw [List.mem_append, List.mem_append, Option.mem_toList, Option.mem_toList, or_assoc]
  by_cases hflow : e.flow = .unsolicited
  · rw [if_pos hflow, List.mem_singleton]
    simp [hflow, eq_comm]
  · rw [if_neg hflow]
    simp [hflow]

theorem checkDecodable_eq_ok_iff :
    e.checkDecodable = .ok () ↔ ∀ codec ∈ e.inboundCodecs, codec.isDecodable = true := by
  unfold checkDecodable
  cases hfind : e.inboundCodecs.find? (!·.isDecodable) with
  | none =>
    have hall := List.find?_eq_none.mp hfind
    simpa using hall
  | some codec =>
    have hbad := List.find?_some hfind
    constructor
    · intro hok
      cases hok
    · intro hall
      rw [hall codec (List.mem_of_find?_eq_some hfind)] at hbad
      cases hbad

theorem checkDecodable_eq_error_iff :
    e.checkDecodable = .error err
      ↔ ∃ before codec after, e.inboundCodecs = before ++ codec :: after
        ∧ (∀ c ∈ before, c.isDecodable = true) ∧ codec.isDecodable = false
        ∧ err = .notDecodable e.id codec.name := by
  have hfirst (codec : Codec) : e.inboundCodecs.find? (!·.isDecodable) = some codec
      ↔ codec.isDecodable = false ∧ ∃ before after, e.inboundCodecs = before ++ codec :: after
        ∧ ∀ c ∈ before, c.isDecodable = true := by
    rw [List.find?_eq_some_iff_append]
    simp
  unfold checkDecodable
  constructor
  · intro herror
    cases hfind : e.inboundCodecs.find? (!·.isDecodable) with
    | none =>
      rw [hfind] at herror
      cases herror
    | some codec =>
      rw [hfind] at herror
      obtain ⟨hbad, before, after, hcodecs, hbefore⟩ := (hfirst codec).mp hfind
      exact ⟨before, codec, after, hcodecs, hbefore, hbad, (Except.error.inj herror).symm⟩
  · rintro ⟨before, codec, after, hcodecs, hbefore, hbad, rfl⟩
    rw [(hfirst codec).mpr ⟨hbad, before, after, hcodecs, hbefore⟩]

/-- The checks are made in turn, and the first that fails has the last word. -/
theorem validate_eq_error_iff_checks :
    e.validate = .error err
      ↔ e.checkResponse = .error err
        ∨ e.checkResponse = .ok () ∧ (e.checkCallback = .error err
          ∨ e.checkCallback = .ok () ∧ e.checkDecodable = .error err) := by
  unfold validate
  cases e.checkResponse <;> cases e.checkCallback <;> simp [bind, Except.bind]

theorem validate_eq_ok_iff_checks :
    e.validate = .ok () ↔ e.checkResponse = .ok () ∧ e.checkCallback = .ok ()
      ∧ e.checkDecodable = .ok () := by
  unfold validate
  cases e.checkResponse <;> cases e.checkCallback <;> simp [bind, Except.bind]

/-- **An entry passes the checks exactly if it can be routed.** -/
theorem validate_eq_ok_iff : e.validate = .ok () ↔ e.Routable := by
  rw [validate_eq_ok_iff_checks, checkResponse_eq_ok_iff, checkCallback_eq_ok_iff,
    checkDecodable_eq_ok_iff]
  constructor
  · rintro ⟨hresponse, hcallback, hall⟩
    refine ⟨hresponse, hcallback, ?_, ?_, ?_⟩
    · intro codec hcodec
      exact hall codec (mem_inboundCodecs_iff.mpr (.inl hcodec))
    · intro codec hcodec
      exact hall codec (mem_inboundCodecs_iff.mpr (.inr (.inl hcodec)))
    · intro hflow
      exact hall e.request (mem_inboundCodecs_iff.mpr (.inr (.inr ⟨hflow, rfl⟩)))
  · intro he
    refine ⟨he.response, he.callback, ?_⟩
    intro codec hmem
    rcases mem_inboundCodecs_iff.mp hmem with hcodec | hcodec | ⟨hflow, rfl⟩
    · exact he.readsResponse codec hcodec
    · exact he.readsCallback codec hcodec
    · exact he.readsRequest hflow

/-- **The checks report the fault of an entry**, and nothing else. -/
theorem validate_eq_error_iff : e.validate = .error err ↔ e.Fault err := by
  rw [validate_eq_error_iff_checks, checkResponse_eq_error_iff, checkResponse_eq_ok_iff,
    checkCallback_eq_error_iff, checkCallback_eq_ok_iff, checkDecodable_eq_error_iff]
  constructor
  · rintro ((⟨hflow, hcodec, rfl⟩ | ⟨hflow, hcodec, rfl⟩) | ⟨hresponse,
      (⟨hflow, hcodec, rfl⟩ | ⟨hflow, hcodec, rfl⟩) | ⟨hcallback, before, codec, after,
        hcodecs, hbefore, hbad, rfl⟩⟩)
    · exact .missingResponse hflow hcodec
    · exact .unexpectedResponse hflow hcodec
    · exact .missingCallback hresponse hflow hcodec
    · exact .unexpectedCallback hresponse hflow hcodec
    · exact .undecodable hresponse hcallback hcodecs hbefore hbad
  · intro hfault
    cases hfault with
    | missingResponse hflow hcodec => exact .inl (.inl ⟨hflow, hcodec, rfl⟩)
    | unexpectedResponse hflow hcodec => exact .inl (.inr ⟨hflow, hcodec, rfl⟩)
    | missingCallback hresponse hflow hcodec =>
      exact .inr ⟨hresponse, .inl (.inl ⟨hflow, hcodec, rfl⟩)⟩
    | unexpectedCallback hresponse hflow hcodec =>
      exact .inr ⟨hresponse, .inl (.inr ⟨hflow, hcodec, rfl⟩)⟩
    | undecodable hresponse hcallback hcodecs hbefore hbad =>
      exact .inr ⟨hresponse, .inr ⟨hcallback, _, _, _, hcodecs, hbefore, hbad, rfl⟩⟩

/-! ## §3. The codec for a frame -/

/-- **An entry that can be routed has a codec for exactly the frames of its flow.** -/
theorem Routable.codecFor?_isSome (he : e.Routable) (kind : FrameKind) :
    (e.codecFor? kind).isSome = true
      ↔ kind = .response ∧ e.flow.hasResponse = true
        ∨ kind = .request ∧ e.flow = .unsolicited
        ∨ kind = .request ∧ e.flow.hasCallback = true := by
  cases kind with
  | response =>
    show e.response.isSome = true ↔ _
    rw [he.response]
    simp
  | request =>
    show (if e.flow = .unsolicited then some e.request else e.callback).isSome = true ↔ _
    by_cases hflow : e.flow = .unsolicited
    · rw [if_pos hflow]
      simp [hflow]
    · rw [if_neg hflow, he.callback]
      simp [hflow]

/-- **Whatever it has a codec for, it can read.** -/
theorem Routable.isDecodable (he : e.Routable) {kind : FrameKind} {codec : Codec}
    (hcodec : e.codecFor? kind = some codec) : codec.isDecodable = true := by
  cases kind with
  | response => exact he.readsResponse codec hcodec
  | request =>
    change (if e.flow = .unsolicited then some e.request else e.callback) = some codec at hcodec
    by_cases hflow : e.flow = .unsolicited
    · rw [if_pos hflow] at hcodec
      obtain rfl := Option.some.inj hcodec
      exact he.readsRequest hflow
    · rw [if_neg hflow] at hcodec
      exact he.readsCallback codec hcodec

end Entry

/-- A codec can read exactly if it makes something of any payload. -/
theorem Codec.decode?_isSome (codec : Codec) (payload : Buffer) :
    (codec.decode? payload).isSome = codec.isDecodable :=
  Option.isSome_map

/-! ## §4. Lists of entries -/

/-- An entry cannot follow these: it has a fault of its own or, if it has
    none, its id is taken. -/
inductive Entry.Offends (before : List Entry) (e : Entry) : RegistryError → Prop where
  | fault {err : RegistryError} (hfault : e.Fault err) : Offends before e err
  | duplicate (hroutable : e.Routable) (htaken : e.id ∈ before.map Entry.id) :
      Offends before e (.duplicateCommandId e.id)

namespace Registry

variable {r : Registry} {e : Entry}

theorem find?_isSome_iff (r : Registry) (id : UInt8) :
    (r.find? id).isSome = true ↔ id ∈ r.entries.map Entry.id := by
  unfold find?
  rw [List.find?_isSome, List.mem_map]
  simp

/-- With distinct ids every entry is found by its own. -/
theorem find?_of_mem (hids : (r.entries.map Entry.id).Nodup) (he : e ∈ r.entries) :
    r.find? e.id = some e := by
  cases hfind : r.find? e.id with
  | none =>
    have hsome := (r.find?_isSome_iff e.id).mpr (List.mem_map_of_mem he)
    rw [hfind] at hsome
    cases hsome
  | some found =>
    have hid : found.id = e.id := by simpa using List.find?_some hfind
    rw [List.inj_on_of_nodup_map hids (List.mem_of_find?_eq_some hfind) he hid]

/-- **An entry is taken** if it can be routed and its id is free. -/
theorem insert_eq_ok_iff {next : Registry} :
    r.insert e = .ok next
      ↔ e.Routable ∧ e.id ∉ r.entries.map Entry.id ∧ next = ⟨r.entries ++ [e]⟩ := by
  rw [← Entry.validate_eq_ok_iff, ← r.find?_isSome_iff]
  unfold insert
  cases e.validate with
  | error fault => simp [bind, Except.bind]
  | ok _ => cases (r.find? e.id).isSome <;> simp [bind, Except.bind, pure, Except.pure, eq_comm]

/-- **It is refused** for what it does wrong. -/
theorem insert_eq_error_iff {err : RegistryError} :
    r.insert e = .error err ↔ e.Offends r.entries err := by
  have hchecks : r.insert e = .error err ↔ e.validate = .error err
      ∨ e.validate = .ok () ∧ (r.find? e.id).isSome = true ∧ err = .duplicateCommandId e.id := by
    unfold insert
    cases e.validate with
    | error fault => simp [bind, Except.bind]
    | ok _ =>
      cases (r.find? e.id).isSome <;>
        simp [bind, Except.bind, pure, Except.pure, throw, throwThe, MonadExceptOf.throw, eq_comm]
  rw [hchecks, Entry.validate_eq_ok_iff, Entry.validate_eq_error_iff, r.find?_isSome_iff]
  constructor
  · rintro (hfault | ⟨hroutable, htaken, rfl⟩)
    · exact .fault hfault
    · exact .duplicate hroutable htaken
  · intro hoffends
    cases hoffends with
    | fault hfault => exact .inl hfault
    | duplicate hroutable htaken => exact .inr ⟨hroutable, htaken, rfl⟩

/-- The last entry comes to the registry of those before it. -/
theorem ofEntries_concat (entries : List Entry) (e : Entry) :
    ofEntries (entries ++ [e]) = (ofEntries entries).bind (·.insert e) := by
  unfold ofEntries
  rw [List.foldlM_append]
  cases entries.foldlM insert ⟨[]⟩ with
  | error fault => rfl
  | ok r =>
    show (r.insert e).bind Except.ok = r.insert e
    cases r.insert e <;> rfl

/-- **A list of entries makes a registry**, that of all of them in their order,
    exactly if each can be routed and no id occurs twice. -/
theorem ofEntries_eq_ok_iff {entries : List Entry} :
    ofEntries entries = .ok r
      ↔ r = ⟨entries⟩ ∧ (∀ e ∈ entries, e.Routable) ∧ (entries.map Entry.id).Nodup := by
  -- from the right, for that is how a registry grows
  induction entries using List.reverseRecOn generalizing r with
  | nil =>
    show Except.ok ⟨[]⟩ = Except.ok r ↔ _
    simp [eq_comm]
  | append_singleton entries e ih =>
    have hids : ((entries ++ [e]).map Entry.id).Nodup
        ↔ (entries.map Entry.id).Nodup ∧ e.id ∉ entries.map Entry.id := by
      rw [List.map_append, List.map_singleton, ← List.concat_eq_append, List.nodup_concat]
      exact and_comm
    have hall : (∀ e' ∈ entries ++ [e], e'.Routable)
        ↔ (∀ e' ∈ entries, e'.Routable) ∧ e.Routable := by
      rw [List.forall_mem_append, List.forall_mem_singleton]
    rw [ofEntries_concat, hids, hall]
    constructor
    · intro hok
      cases hbefore : ofEntries entries with
      | error fault =>
        rw [hbefore] at hok
        cases hok
      | ok before =>
        rw [hbefore] at hok
        obtain ⟨rfl, hroutable, hnodup⟩ := ih.mp hbefore
        obtain ⟨he, hfree, rfl⟩ := insert_eq_ok_iff.mp hok
        exact ⟨rfl, ⟨hroutable, he⟩, hnodup, hfree⟩
    · rintro ⟨rfl, ⟨hroutable, he⟩, hnodup, hfree⟩
      rw [ih.mpr ⟨rfl, hroutable, hnodup⟩]
      exact insert_eq_ok_iff.mpr ⟨he, hfree, rfl⟩

/-- **Otherwise it fails at the first entry that offends**, the entries before
    it making a registry of their own. -/
theorem ofEntries_eq_error_iff {entries : List Entry} {err : RegistryError} :
    ofEntries entries = .error err
      ↔ ∃ before e after, entries = before ++ e :: after
        ∧ ofEntries before = .ok ⟨before⟩ ∧ e.Offends before err := by
  constructor
  · intro herror
    induction entries using List.reverseRecOn with
    | nil => cases herror
    | append_singleton entries e ih =>
      rw [ofEntries_concat] at herror
      cases hbefore : ofEntries entries with
      | error fault =>
        rw [hbefore] at herror
        obtain ⟨before, e', after, rfl, hgood, hoffends⟩ := ih (by rw [hbefore]; exact herror)
        exact ⟨before, e', after ++ [e], by simp, hgood, hoffends⟩
      | ok r =>
        rw [hbefore] at herror
        obtain ⟨rfl, -, -⟩ := ofEntries_eq_ok_iff.mp hbefore
        exact ⟨entries, e, [], rfl, hbefore, insert_eq_error_iff.mp herror⟩
  · rintro ⟨before, e, after, rfl, hgood, hoffends⟩
    unfold ofEntries at hgood ⊢
    rw [List.foldlM_append, hgood]
    show (insert ⟨before⟩ e).bind _ = _
    rw [insert_eq_error_iff.mpr hoffends]
    rfl

end Registry

/-- A fault of its own comes before an id that is taken. -/
example : (Registry.ofEntries [.plain 0x08 .acknowledged "SoftReset",
    .plain 0x08 .response "SoftReset"]).map Registry.entries
      = .error (.missingResponseCodec 0x08 .response) := by
  rfl

end ZWaveHost
