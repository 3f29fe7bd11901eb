/-
  ZWaveHost.Proofs.Command.LibraryVersion — the version text of a library.

  The text stands in a field of twelve bytes and is padded with control characters.
  Reading it is lenient (an ill-formed part becomes U+FFFD), takes the control
  characters off its end and looks for a version in what is left.

  A control character is no digit of any script, so it changes no version in front
  of it: the version may as well be looked for in the whole field.

  Main results:
    * `parse?_trimControls` — trimming changes no version.
    * `run_decode_field` — what is read from a field, whatever it holds.
    * `library_version_from_padded_text` — a padded text comes back as it was.
-/
import Mathlib.Data.List.DropRight
import ZWaveHost.Command.Module
import ZWaveHost.Proofs.Command.Reading
import ZWaveHost.Proofs.Text.Utf8
import ZWaveHost.Proofs.Version.Parsing

namespace ZWaveHost

namespace LibraryVersion

/-! ## §1. Control characters at the end -/

/-- Whether a text ends in a control character. -/
def endsInControl (text : String) : Bool :=
  text.toList.getLast?.any isControl

theorem toList_trimControls (text : String) :
    (trimControls text).toList = text.toList.rdropWhile isControl :=
  String.toList_ofList

/-- A trimmed text ends in no control character. -/
theorem endsInControl_trimControls (text : String) :
    endsInControl (trimControls text) = false := by
  rw [endsInControl, toList_trimControls, Option.any_eq_false]
  intro c hc
  obtain ⟨hne, rfl⟩ := List.mem_getLast?_eq_getLast hc
  exact Bool.eq_false_iff.mpr (List.rdropWhile_last_not isControl text.toList hne)

/-- What is trimmed off a text is control characters. -/
theorem exists_controls (text : String) :
    ∃ controls : String, text = trimControls text ++ controls
      ∧ ∀ c ∈ controls.toList, isControl c = true := by
  refine ⟨String.ofList (text.toList.rtakeWhile isControl), ?_, ?_⟩
  · rw [← String.toList_inj, String.toList_append, toList_trimControls, String.toList_ofList,
      List.rdropWhile_append_rtakeWhile]
  · intro c hc
    rw [String.toList_ofList] at hc
    exact List.mem_rtakeWhile_imp hc

/-- Control characters behind a text that ends in none are trimmed, and no more. -/
theorem trimControls_append {text : String} {controls : List Char}
    (hend : endsInControl text = false) (hcontrols : ∀ c ∈ controls, isControl c = true) :
    trimControls (String.ofList (text.toList ++ controls)) = text := by
  rw [← String.toList_inj, toList_trimControls, String.toList_ofList]
  -- from the last control character on
  induction controls using List.reverseRecOn with
  | nil =>
    rw [List.append_nil, List.rdropWhile_eq_self_iff]
    intro hne
    rw [endsInControl, List.getLast?_eq_some_getLast hne] at hend
    exact Bool.eq_false_iff.mp hend
  | append_singleton controls c ih =>
    obtain ⟨hcontrols, hc⟩ := List.forall_mem_append.mp hcontrols
    rw [← List.append_assoc, List.rdropWhile_concat_pos _ _ _ (hc c List.mem_cons_self)]
    exact ih hcontrols

/-! ## §2. No version is lost -/

/-- A control character is no digit: all digits but the ASCII ones stand far above. -/
theorem isDecimalDigit_of_isControl {c : Char} (hc : isControl c = true) :
    Text.isDecimalDigit c = false := by
  have hrange : c.toNat < 0x20 ∨ 0x7F ≤ c.toNat ∧ c.toNat < 0xA0 := by
    simpa [isControl] using hc
  have htable : ∀ r ∈ Text.decimalDigitRanges, (r.1 = 0x30 ∧ r.2 = 0x39) ∨ 0xA0 ≤ r.1 := by
    decide
  rw [Text.isDecimalDigit, Text.inRanges, List.any_eq_false]
  intro r hr
  have hbounds := htable r hr
  simp only [Bool.and_eq_true, decide_eq_true_eq]
  omega

/-- **Trimming changes no version.** -/
theorem parse?_trimControls (text : String) :
    Version.parse? (trimControls text) = Version.parse? text := by
  obtain ⟨controls, htext, hcontrols⟩ := exists_controls text
  have hdigits : ∀ c ∈ controls.toList, Text.isDecimalDigit c = false :=
    fun c hc => isDecimalDigit_of_isControl (hcontrols c hc)
  calc Version.parse? (trimControls text)
      = Version.parse? (trimControls text ++ controls) :=
        (Version.parse?_append_of_no_digit hdigits).symm
    _ = Version.parse? text := by rw [← htext]

/-! ## §3. The reading -/

variable {before field rest : List UInt8}

/-- The description that stands in a field. -/
def descriptionOf (field : List UInt8) : String := trimControls (Text.decodeLossy field)

/-- **What is read from a field**: its description, and the type behind it, if
    there is a version in the field; else nothing behind the field is read. -/
theorem run_decode_field (hfield : field.length = libraryVersionLength) (libraryType : UInt8) :
    decode.run (.after before (field ++ libraryType :: rest))
      = (Version.parse? (Text.decodeLossy field)).elim
          (.error (.invalidVersion (descriptionOf field)),
            .after (before ++ field) (libraryType :: rest))
          (fun version => (.ok ⟨descriptionOf field, version, LibraryType.ofByte libraryType⟩,
            .after (before ++ field ++ [libraryType]) rest)) := by
  have hlength : libraryVersionLength ≤ (field ++ libraryType :: rest).length := by
    rw [List.length_append, hfield]
    exact Nat.le_add_right _ _
  rw [← parse?_trimControls (Text.decodeLossy field), decode, Buffer.run_nextBytes_bind,
    if_pos hlength, ← hfield, List.take_left, List.drop_left]
  dsimp only
  cases Version.parse? (trimControls (Text.decodeLossy field)) with
  | none => rfl
  | some version =>
    simp only [Buffer.run_next_bind_cons]
    rfl

/-- **A success has read a field and the type behind it.** -/
theorem exists_field_of_run_decode {left : List UInt8} {library : LibraryVersion} {b : Buffer}
    (hrun : decode.run (.after before left) = (.ok library, b)) :
    ∃ field libraryType rest, left = field ++ libraryType :: rest
      ∧ field.length = libraryVersionLength
      ∧ library.description = descriptionOf field
      ∧ Version.parse? (Text.decodeLossy field) = some library.version := by
  obtain ⟨field, rest, rfl, hfield, hrest⟩ := Buffer.run_nextBytes_bind_eq_ok_iff.mp hrun
  dsimp only at hrest
  cases hversion : Version.parse? (trimControls (Text.decodeLossy field)) with
  | none =>
    simp only [hversion] at hrest
    cases hrest
  | some version =>
    simp only [hversion] at hrest
    obtain ⟨libraryType, rest, rfl, hvalue⟩ := Buffer.run_next_bind_eq_ok_iff.mp hrest
    obtain ⟨rfl, -⟩ := Decode.run_pure_eq_ok_iff.mp hvalue
    rw [parse?_trimControls] at hversion
    exact ⟨field, libraryType, rest, rfl, hfield, rfl, hversion⟩

/-! ## §4. Padded texts -/

/-- Whether a byte may be padding: an ASCII control character. -/
def IsPadding (b : UInt8) : Prop := b ≤ 0x1F ∨ b = 0x7F

instance (b : UInt8) : Decidable (IsPadding b) := inferInstanceAs (Decidable (_ ∨ _))

theorem IsPadding.ascii {b : UInt8} (h : IsPadding b) : b < 0x80 := by
  rcases h with h | rfl
  · exact UInt8.lt_of_le_of_lt h (by decide)
  · decide

theorem IsPadding.isControl {b : UInt8} (h : IsPadding b) :
    isControl (Char.ofNat b.toNat) = true := by
  have hall : ∀ n < 128, n ≤ 0x1F ∨ n = 0x7F → LibraryVersion.isControl (Char.ofNat n) = true := by
    decide
  refine hall _ (UInt8.lt_iff_toNat_lt.mp h.ascii) ?_
  rcases h with h | rfl
  · exact .inl (UInt8.le_iff_toNat_le.mp h)
  · exact .inr rfl

/-- **The description in a field is the text that was padded.** -/
theorem descriptionOf_padded {text : String} {padding : List UInt8}
    (hend : endsInControl text = false) (hpadding : ∀ b ∈ padding, IsPadding b) :
    descriptionOf (Text.utf8 text ++ padding) = text := by
  have hcontrols : ∀ c ∈ Text.asciiText padding, isControl c = true := by
    rw [Text.asciiText, List.forall_mem_map]
    exact fun b hb => (hpadding b hb).isControl
  rw [descriptionOf, Text.decodeLossy_utf8_append text fun b hb => (hpadding b hb).ascii,
    trimControls_append hend hcontrols]

end LibraryVersion

open LibraryVersion in
/-- **Library versions.**  A text that ends in no control character and is padded
    to twelve bytes with ASCII control characters comes back as the description,
    with the version that is in it and the type behind the field, and thirteen
    bytes are read; without a version in it, the error names the text, and the
    type is not read.  Whatever bytes the field holds, a description that is read
    ends in no control character and tells the version of the whole field: what
    is trimmed off changes no version. -/
theorem library_version_from_padded_text :
    (∀ (text : String) (padding : List UInt8) (libraryType : UInt8) (rest : List UInt8),
      endsInControl text = false → (∀ b ∈ padding, IsPadding b) →
      (Text.utf8 text ++ padding).length = 12 →
        LibraryVersion.decode.run (.ofBytes (Text.utf8 text ++ padding ++ libraryType :: rest))
          = (Version.parse? text).elim
              (.error (.invalidVersion text),
                ⟨Text.utf8 text ++ padding ++ libraryType :: rest, 12⟩)
              (fun version => (.ok ⟨text, version, LibraryType.ofByte libraryType⟩,
                ⟨Text.utf8 text ++ padding ++ libraryType :: rest, 13⟩)))
    ∧ (∀ (payload : List UInt8) (library : LibraryVersion) (b : Buffer),
      LibraryVersion.decode.run (.ofBytes payload) = (.ok library, b) →
        endsInControl library.description = false
        ∧ Version.parse? library.description = some library.version
        ∧ Version.parse? (Text.decodeLossy (payload.take 12)) = some library.version)
    ∧ ∀ field : List UInt8, field.length = 12 →
        Version.parse? (trimControls (Text.decodeLossy field))
          = Version.parse? (Text.decodeLossy field) := by
  refine ⟨?_, ?_, fun field _ => parse?_trimControls _⟩
  · intro text padding libraryType rest hend hpadding hlength
    have hdescription := descriptionOf_padded hend hpadding
    have hversion : Version.parse? (Text.decodeLossy (Text.utf8 text ++ padding))
        = Version.parse? text := by
      rw [← parse?_trimControls]
      exact congrArg Version.parse? hdescription
    -- the buffer that either result leaves
    have hfield : Buffer.after (Text.utf8 text ++ padding) (libraryType :: rest)
        = ⟨Text.utf8 text ++ padding ++ libraryType :: rest, 12⟩ := by
      rw [Buffer.after, hlength]
    have hwhole : Buffer.after (Text.utf8 text ++ padding ++ [libraryType]) rest
        = ⟨Text.utf8 text ++ padding ++ libraryType :: rest, 13⟩ := by
      rw [Buffer.after, List.append_assoc, List.length_append, hlength]
      rfl
    rw [Buffer.ofBytes_eq_after, run_decode_field hlength, List.nil_append, hfield, hwhole,
      hversion, hdescription]
  · intro payload library b hrun
    obtain ⟨field, libraryType, rest, rfl, hfield, hdescription, hversion⟩ :=
      exists_field_of_run_decode (Buffer.ofBytes_eq_after payload ▸ hrun)
    have htake : (field ++ libraryType :: rest).take 12 = field := List.take_left' hfield
    rw [hdescription, htake]
    refine ⟨endsInControl_trimControls _, ?_, hversion⟩
    rw [descriptionOf, parse?_trimControls, hversion]

/-- The text of a bridge controller's library, of eleven bytes, and one of padding. -/
theorem library_version_from_padded_text_of_bridge :
    LibraryVersion.decode.run (.ofBytes (Text.utf8 "Z-Wave 7.15" ++ [0x00] ++ [0x07]))
        = (.ok ⟨"Z-Wave 7.15", ⟨7, some 15, none⟩, .bridgeController⟩,
            ⟨Text.utf8 "Z-Wave 7.15" ++ [0x00] ++ [0x07], 13⟩)
      ∧ LibraryVersion.endsInControl "Z-Wave 7.15" = false
      ∧ Version.parse? (LibraryVersion.trimControls
            (Text.decodeLossy (Text.utf8 "Z-Wave 7.15" ++ [0x00])))
          = Version.parse? (Text.decodeLossy (Text.utf8 "Z-Wave 7.15" ++ [0x00])) := by
  obtain ⟨hpadded, hsuccess, htrimmed⟩ := library_version_from_padded_text
  have hlength : (Text.utf8 "Z-Wave 7.15" ++ [0x00]).length = 12 := by decide
  have hversion : Version.parse? "Z-Wave 7.15" = some ⟨7, some 15, none⟩ := by decide
  have hpadding : ∀ b ∈ [0x00], LibraryVersion.IsPadding b :=
    List.forall_mem_singleton.mpr (by decide)
  have hrun := hpadded "Z-Wave 7.15" [0x00] 0x07 [] (by decide) hpadding hlength
  rw [hversion] at hrun
  exact ⟨hrun, (hsuccess _ _ _ hrun).1, htrimmed _ hlength⟩

end ZWaveHost
