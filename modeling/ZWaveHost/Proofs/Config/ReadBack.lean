/-
  ZWaveHost.Proofs.Config.ReadBack — settings are read as they were written.

  A text may give any of the settings, in any order.  Those that it gives are read
  as they were written and the others have their defaults (`ofJson?_written`), so
  what is read keeps to the rules that the written settings keep to.

  Main statement: from any such text, whatever blanks it has, the settings are read
  that it gives; if it gives all of them and they break a rule, the first rule that
  they break is named (`settings_read_back`).
-/
import Mathlib.Data.List.Nodup
import ZWaveHost.Config
import ZWaveHost.Proofs.Json.Documents

namespace ZWaveHost.Config

/-! ## §1. Settings one by one -/

/-- The settings of a host. -/
inductive Setting where
  | portName
  | baudRate
  | openTimeoutMs
  | timeoutMs
  | maxRetries
  | retryOnAckTimeout
  | retryOnResponseTimeout
  | retransmitOnNak
  | softResetOnFailure
  | dispatchCapacity
  deriving DecidableEq

namespace Setting

/-- All settings, in their order. -/
def all : List Setting :=
  [portName, baudRate, openTimeoutMs, timeoutMs, maxRetries, retryOnAckTimeout,
    retryOnResponseTimeout, retransmitOnNak, softResetOnFailure, dispatchCapacity]

/-- The name of a setting in a text. -/
def name : Setting → String
  | portName => "port_name"
  | baudRate => "baud_rate"
  | openTimeoutMs => "open_timeout_ms"
  | timeoutMs => "timeout_ms"
  | maxRetries => "max_retries"
  | retryOnAckTimeout => "retry_on_ack_timeout"
  | retryOnResponseTimeout => "retry_on_response_timeout"
  | retransmitOnNak => "retransmit_on_nak"
  | softResetOnFailure => "soft_reset_on_failure"
  | dispatchCapacity => "dispatch_capacity"

/-- The written value of a setting. -/
def value (c : Config) : Setting → Json
  | portName => toJson c.portName
  | baudRate => toJson c.baudRate
  | openTimeoutMs => toJson c.openTimeoutMs
  | timeoutMs => toJson c.timeoutMs
  | maxRetries => toJson c.maxRetries
  | retryOnAckTimeout => toJson c.retryOnAckTimeout
  | retryOnResponseTimeout => toJson c.retryOnResponseTimeout
  | retransmitOnNak => toJson c.retransmitOnNak
  | softResetOnFailure => toJson c.softResetOnFailure
  | dispatchCapacity => toJson c.dispatchCapacity

theorem mem_all (s : Setting) : s ∈ all := by
  cases s <;> decide

/-- Different settings have different names. -/
theorem name_injective : Function.Injective name := by
  have hnames : (all.map name).Nodup := by decide
  intro s t heq
  exact List.inj_on_of_nodup_map hnames s.mem_all t.mem_all heq

/-- Every setting is known by its name. -/
theorem name_mem_fieldNames (s : Setting) : s.name ∈ fieldNames := by
  cases s <;> decide

/-- A value is written by one word, which can be read. -/
theorem tokens_value (c : Config) (s : Setting) :
    ∃ word : Json.Token, (s.value c).tokens = [word] ∧ word.Reads := by
  cases s <;> exact ⟨_, rfl, Json.Token.reads_of_not_literal fun _ => nofun⟩

end Setting

variable (c : Config) (given : List Setting)

/-- The fields that give some settings. -/
def fieldsOf : Json.Fields := given.map fun s => (s.name, s.value c)

/-- Some settings as they are written. -/
def written : Json := .record (c.fieldsOf given)

/-- The default settings, but for those that are given. -/
def adopt : Config where
  portName := if .portName ∈ given then c.portName else default.portName
  baudRate := if .baudRate ∈ given then c.baudRate else default.baudRate
  openTimeoutMs := if .openTimeoutMs ∈ given then c.openTimeoutMs else default.openTimeoutMs
  timeoutMs := if .timeoutMs ∈ given then c.timeoutMs else default.timeoutMs
  maxRetries := if .maxRetries ∈ given then c.maxRetries else default.maxRetries
  retryOnAckTimeout :=
    if .retryOnAckTimeout ∈ given then c.retryOnAckTimeout else default.retryOnAckTimeout
  retryOnResponseTimeout :=
    if .retryOnResponseTimeout ∈ given then c.retryOnResponseTimeout
    else default.retryOnResponseTimeout
  retransmitOnNak :=
    if .retransmitOnNak ∈ given then c.retransmitOnNak else default.retransmitOnNak
  softResetOnFailure :=
    if .softResetOnFailure ∈ given then c.softResetOnFailure else default.softResetOnFailure
  dispatchCapacity :=
    if .dispatchCapacity ∈ given then c.dispatchCapacity else default.dispatchCapacity

/-- All settings, in their order, are written as a host's settings are. -/
theorem written_all : c.written Setting.all = toJson c := rfl

variable {c given}

theorem adopt_of_all (hall : ∀ s, s ∈ given) : c.adopt given = c := by
  simp only [adopt, hall, if_true]

/-- **What is adopted from valid settings is valid.** -/
theorem valid_adopt (hvalid : c.Valid) : (c.adopt given).Valid := by
  constructor
  · show (if _ then _ else _) ≠ _
    split
    · exact hvalid.maxRetries_ne
    · decide
  · show (if _ then _ else _) ≠ _
    split
    · exact hvalid.dispatchCapacity_ne
    · decide
  · show (if _ then _ else _) ≠ _
    split
    · exact hvalid.timeoutMs_ne
    · decide

/-! ## §2. Values -/

theorem natBelow?_nat {bound n : Nat} (hn : n < bound) :
    (Json.nat n).natBelow? bound = some n := by
  have hrange : 0 ≤ (n : Int) ∧ (n : Int) < bound := by omega
  show (if 0 ≤ (n : Int) ∧ (n : Int) < bound then some (n : Int).toNat else none) = some n
  rw [if_pos hrange, Int.toNat_natCast]

theorem ofJson?_toJson_string (text : String) : ofJson? (toJson text) = some text := rfl

theorem ofJson?_toJson_bool (b : Bool) : ofJson? (toJson b) = some b := rfl

theorem ofJson?_toJson_uint32 (n : UInt32) : ofJson? (toJson n) = some n := by
  show ((Json.nat n.toNat).natBelow? UInt32.size).map UInt32.ofNat = some n
  rw [natBelow?_nat n.toNat_lt_size, Option.map_some, UInt32.ofNat_toNat]

theorem ofJson?_toJson_uint64 (n : UInt64) : ofJson? (toJson n) = some n := by
  show ((Json.nat n.toNat).natBelow? UInt64.size).map UInt64.ofNat = some n
  rw [natBelow?_nat n.toNat_lt_size, Option.map_some, UInt64.ofNat_toNat]

/-! ## §3. Fields -/

/-- Known fields of different names are all there. -/
theorem namedFields?_known {names : List String} {fields : Json.Fields}
    (hknown : ∀ f ∈ fields, f.1 ∈ names) (hnodup : (fields.map Prod.fst).Nodup) :
    Json.namedFields? names (fields.map fun f => (some f.1, f.2)) = some fields := by
  induction fields with
  | nil => rfl
  | cons field fields ih =>
    obtain ⟨hfield, hfields⟩ := List.forall_mem_cons.mp hknown
    obtain ⟨hnew, hrest⟩ := List.nodup_cons.mp hnodup
    have hnone : (fields.lookup field.1).isSome = false := by
      rw [Option.isSome_eq_false_iff, Option.isNone_iff_eq_none, List.lookup_eq_none_iff]
      intro other hother
      refine bne_iff_ne.mpr fun heq => hnew ?_
      rw [heq]
      exact List.mem_map_of_mem hother
    rw [List.map_cons, Json.namedFields?, ih hfields hrest]
    show (if field.1 ∉ names then _ else if (fields.lookup field.1).isSome then _ else _) = _
    rw [if_neg (not_not.mpr hfield), hnone]
    rfl

variable (c given)

/-- A setting is found among the given ones by its name. -/
theorem lookup_fieldsOf (s : Setting) :
    (c.fieldsOf given).lookup s.name = if s ∈ given then some (s.value c) else none := by
  induction given with
  | nil => rfl
  | cons t given ih =>
    rw [fieldsOf, List.map_cons, List.lookup_cons]
    by_cases hst : s = t
    · subst hst
      rw [beq_self_eq_true, if_pos List.mem_cons_self]
    · have hname : (s.name == t.name) = false :=
        beq_eq_false_iff_ne.mpr fun heq => hst (Setting.name_injective heq)
      rw [hname]
      simp only [List.mem_cons, hst, false_or]
      exact ih

/-- **A setting that is given is read**, and one that is not has its default. -/
theorem withDefault?_fieldsOf {α : Type} [JsonForm α] (s : Setting) {x : α} (d : α)
    (hvalue : s.value c = toJson x) (hread : ofJson? (toJson x) = some x) :
    (c.fieldsOf given).withDefault? s.name d = some (if s ∈ given then x else d) := by
  rw [Json.Fields.withDefault?, lookup_fieldsOf]
  by_cases hs : s ∈ given
  · rw [if_pos hs, if_pos hs, hvalue]
    exact hread
  · rw [if_neg hs, if_neg hs]

/-- **Settings are read as they were written**, over the defaults. -/
theorem ofJson?_written (hgiven : given.Nodup) :
    ofJson? (c.written given) = some (c.adopt given) := by
  have hfields : Json.leadingFields? fieldNames (c.written given) = some (c.fieldsOf given) := by
    refine namedFields?_known ?_ ?_
    · intro f hf
      obtain ⟨s, -, rfl⟩ := List.mem_map.mp hf
      exact s.name_mem_fieldNames
    · rw [fieldsOf, List.map_map]
      exact List.Nodup.map Setting.name_injective hgiven
  -- the reader asks for each setting by its name
  have hport : (c.fieldsOf given).withDefault? "port_name" default.portName
      = some (c.adopt given).portName :=
    c.withDefault?_fieldsOf given .portName _ rfl (ofJson?_toJson_string _)
  have hbaud : (c.fieldsOf given).withDefault? "baud_rate" default.baudRate
      = some (c.adopt given).baudRate :=
    c.withDefault?_fieldsOf given .baudRate _ rfl (ofJson?_toJson_uint32 _)
  have hopen : (c.fieldsOf given).withDefault? "open_timeout_ms" default.openTimeoutMs
      = some (c.adopt given).openTimeoutMs :=
    c.withDefault?_fieldsOf given .openTimeoutMs _ rfl (ofJson?_toJson_uint64 _)
  have htimeout : (c.fieldsOf given).withDefault? "timeout_ms" default.timeoutMs
      = some (c.adopt given).timeoutMs :=
    c.withDefault?_fieldsOf given .timeoutMs _ rfl (ofJson?_toJson_uint64 _)
  have hretries : (c.fieldsOf given).withDefault? "max_retries" default.maxRetries
      = some (c.adopt given).maxRetries :=
    c.withDefault?_fieldsOf given .maxRetries _ rfl (ofJson?_toJson_uint32 _)
  have hack : (c.fieldsOf given).withDefault? "retry_on_ack_timeout" default.retryOnAckTimeout
      = some (c.adopt given).retryOnAckTimeout :=
    c.withDefault?_fieldsOf given .retryOnAckTimeout _ rfl (ofJson?_toJson_bool _)
  have hresponse : (c.fieldsOf given).withDefault? "retry_on_response_timeout"
      default.retryOnResponseTimeout = some (c.adopt given).retryOnResponseTimeout :=
    c.withDefault?_fieldsOf given .retryOnResponseTimeout _ rfl (ofJson?_toJson_bool _)
  have hnak : (c.fieldsOf given).withDefault? "retransmit_on_nak" default.retransmitOnNak
      = some (c.adopt given).retransmitOnNak :=
    c.withDefault?_fieldsOf given .retransmitOnNak _ rfl (ofJson?_toJson_bool _)
  have hreset : (c.fieldsOf given).withDefault? "soft_reset_on_failure" default.softResetOnFailure
      = some (c.adopt given).softResetOnFailure :=
    c.withDefault?_fieldsOf given .softResetOnFailure _ rfl (ofJson?_toJson_bool _)
  have hcapacity : (c.fieldsOf given).withDefault? "dispatch_capacity" default.dispatchCapacity
      = some (c.adopt given).dispatchCapacity :=
    c.withDefault?_fieldsOf given .dispatchCapacity _ rfl (ofJson?_toJson_uint64 _)
  change (Json.leadingFields? fieldNames (c.written given)).bind _ = _
  rw [hfields]
  simp only [Option.bind_eq_bind, Option.bind_some, hport, hbaud, hopen, htimeout, hretries, hack,
    hresponse, hnak, hreset, hcapacity]
  rfl

/-! ## §4. Texts -/

/-- The words of written settings can be read. -/
theorem reads_written : ∀ word ∈ (c.written given).tokens, word.Reads := by
  refine Json.reads_object fun field hfield word hword => ?_
  obtain ⟨named, hnamed, rfl⟩ := List.mem_map.mp hfield
  obtain ⟨s, -, rfl⟩ := List.mem_map.mp hnamed
  obtain ⟨only, honly, hreads⟩ := s.tokens_value c
  rw [honly, List.mem_singleton] at hword
  rw [hword]
  exact hreads

/-- **A text gives its settings over the defaults**, if they keep to the rules. -/
theorem parse_written (hgiven : given.Nodup) {blanks : Nat → List Char}
    (hblanks : ∀ n, ∀ ch ∈ blanks n, Json.Token.isBlank ch = true) :
    parse (Json.layOut blanks (c.written given))
      = (c.adopt given).check.map fun _ => c.adopt given := by
  rw [parse, Json.parse?_layOut hblanks (c.reads_written given), Option.bind_some,
    c.ofJson?_written given hgiven]
  show ((c.adopt given).check >>= fun _ => pure (c.adopt given)) = _
  cases (c.adopt given).check <;> rfl

variable {c given}

theorem check_of_valid (hvalid : c.Valid) : c.check = .ok () := by
  rw [check, (validate_eq_ok_iff c).mpr hvalid]

theorem check_of_fault {fault : ConfigFault} (hfault : c.validate = .error fault) :
    c.check = .error (.config fault.message) := by
  rw [check, hfault]

/-- **Settings are read back as they were written.**  A text that gives some of the
    settings, each once and in whatever order, with whatever blanks between its words,
    is read as the defaults with these settings in their place, if they are valid.  If
    it gives all of them, it is read as the settings themselves, and invalid ones are
    refused for the first rule that they break.  A host's own text is such a text. -/
theorem settings_read_back (c : Config) (given : List Setting) (hgiven : given.Nodup)
    (blanks : Nat → List Char) (hblanks : ∀ n, ∀ ch ∈ blanks n, Json.Token.isBlank ch = true) :
    (c.Valid → parse (Json.layOut blanks (c.written given)) = .ok (c.adopt given))
    ∧ ((∀ s, s ∈ given) →
        (c.Valid → parse (Json.layOut blanks (c.written given)) = .ok c)
        ∧ (c.maxRetries = 0 → parse (Json.layOut blanks (c.written given))
            = .error (.config ConfigFault.noAttempts.message))
        ∧ (c.maxRetries ≠ 0 → c.dispatchCapacity = 0 →
            parse (Json.layOut blanks (c.written given))
              = .error (.config ConfigFault.noDispatchCapacity.message))
        ∧ (c.maxRetries ≠ 0 → c.dispatchCapacity ≠ 0 → c.timeoutMs = 0 →
            parse (Json.layOut blanks (c.written given))
              = .error (.config ConfigFault.noTimeout.message)))
    ∧ (c.Valid → parse (Json.layOut blanks (toJson c)) = .ok c ∧ parse (toJson c).render = .ok c) := by
  have hread := c.parse_written given hgiven hblanks
  refine ⟨fun hvalid => ?_, fun hall => ?_, fun hvalid => ?_⟩
  · rw [hread, check_of_valid (valid_adopt hvalid)]
    rfl
  · rw [adopt_of_all hall] at hread
    have hrefused : ∀ fault, c.validate = .error fault →
        parse (Json.layOut blanks (c.written given)) = .error (.config fault.message) := by
      intro fault hfault
      rw [hread, check_of_fault hfault]
      rfl
    refine ⟨fun hvalid => ?_, fun hretries => ?_, fun hretries hcapacity => ?_,
      fun hretries hcapacity htimeout => ?_⟩
    · rw [hread, check_of_valid hvalid]
      rfl
    · exact hrefused .noAttempts (if_pos hretries)
    · refine hrefused .noDispatchCapacity ?_
      rw [validate, if_neg hretries, if_pos hcapacity]
    · refine hrefused .noTimeout ?_
      rw [validate, if_neg hretries, if_neg hcapacity, if_pos htimeout]
  · have hnodup : Setting.all.Nodup := by decide
    have hall : ∀ s, s ∈ Setting.all := Setting.mem_all
    have hown : ∀ blanks : Nat → List Char,
        (∀ n, ∀ ch ∈ blanks n, Json.Token.isBlank ch = true) →
        parse (Json.layOut blanks (toJson c)) = .ok c := by
      intro blanks hblanks
      rw [← written_all, c.parse_written Setting.all hnodup hblanks, adopt_of_all hall,
        check_of_valid hvalid]
      rfl
    refine ⟨hown blanks hblanks, ?_⟩
    rw [Json.render_eq_layOut]
    exact hown _ fun _ _ => nofun

/-- Two settings with blanks around every word; a port whose name needs escapes. -/
theorem settings_read_back_of_two :
    [Setting.timeoutMs, Setting.portName].Nodup
    ∧ parse "\x7b \"timeout_ms\" : 500 , \"port_name\" : \"COM\\\"3\\n\\u0001ü\" \x7d "
      = .ok { forPort "COM\"3\n\x01ü" with timeoutMs := 500 } := by
  have hnodup : [Setting.timeoutMs, Setting.portName].Nodup := by decide
  have hblanks : ∀ n, ∀ ch ∈ (if n = 0 then [] else [' ']), Json.Token.isBlank ch = true := by
    intro n ch hch
    split at hch
    · cases hch
    · rw [List.mem_singleton.mp hch]
      rfl
  obtain ⟨hread, -⟩ := settings_read_back { forPort "COM\"3\n\x01ü" with timeoutMs := 500 }
    [.timeoutMs, .portName] hnodup (fun n => if n = 0 then [] else [' ']) hblanks
  exact ⟨hnodup, hread ⟨by decide, by decide, by decide⟩⟩

end ZWaveHost.Config
