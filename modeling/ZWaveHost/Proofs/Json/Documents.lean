/-
  ZWaveHost.Proofs.Json.Documents — a document is read back from its words.

  Between two words the reader holds the containers that are still open.  The words
  of a value put this value in its place (`run_tokens`), those between two brackets
  put each item in the array, and those between two braces each field in the object.
  The three are shown together, by recursion on the document.

  Main result: whatever blanks stand between the words of a document, it is read as
  it was written (`parse?_layOut`).
-/
import ZWaveHost.Json.Reader
import ZWaveHost.Proofs.Json.Words

namespace ZWaveHost.Json

open Reading

/-! ## §1. Words are read in turn -/

/-- What one word does. -/
theorem run_word (r : Reading) (token : Token) : [token].foldlM step r = step r token := by
  rw [List.foldlM_cons]
  exact bind_pure (step r token)

/-- An array that was just opened may hold any value first. -/
theorem run_item (opened : List Opened) (document : Json) :
    (tokens document).foldlM step ⟨opened, .item⟩
      = (tokens document).foldlM step ⟨opened, .value⟩ := by
  cases document <;> rfl

theorem run_firstItem (opened : List Opened) (item : Json) (items : List Json) :
    (tokensOfItems (item :: items)).foldlM step ⟨opened, .item⟩
      = (tokensOfItems (item :: items)).foldlM step ⟨opened, .value⟩ := by
  cases items with
  | nil =>
    rw [tokensOfItems]
    exact run_item opened item
  | cons next items =>
    rw [tokensOfItems]
    · rw [List.foldlM_append, List.foldlM_append, run_item]
    · exact List.cons_ne_nil _ _

/-- An object that was just opened may hold any field first. -/
theorem run_firstField (opened : List Opened) (field : Option String × Json)
    (fields : List (Option String × Json)) :
    (tokensOfFields (field :: fields)).foldlM step ⟨opened, .field⟩
      = (tokensOfFields (field :: fields)).foldlM step ⟨opened, .key⟩ := by
  cases fields <;> rfl

mutual

/-- **The words of a value** put it in its place. -/
theorem run_tokens (opened : List Opened) : ∀ document : Json,
    (tokens document).foldlM step ⟨opened, .value⟩ = place document opened
  | .null => run_word _ _
  | .bool _ => run_word _ _
  | .number _ => run_word _ _
  | .string _ => run_word _ _
  | .array [] => run_word _ _
  | .array (item :: items) => by
    have hitems := run_items [] opened (item :: items) (List.cons_ne_nil _ _)
    -- the array is opened, takes its items, and is closed
    show (tokensOfItems (item :: items) ++ [Token.endArray]).foldlM step
      ⟨.array [] :: opened, .item⟩ = _
    rw [List.foldlM_append, run_firstItem, hitems, List.append_nil]
    show [Token.endArray].foldlM step ⟨.array (item :: items).reverse :: opened, .separator⟩ = _
    rw [run_word]
    -- the items were held the latest first
    show place (.array (item :: items).reverse.reverse) opened = _
    rw [List.reverse_reverse]
  | .object [] => run_word _ _
  | .object (field :: fields) => by
    have hfields := run_fields [] opened (field :: fields) (List.cons_ne_nil _ _)
    show (tokensOfFields (field :: fields) ++ [Token.endObject]).foldlM step
      ⟨.object [] :: opened, .field⟩ = _
    rw [List.foldlM_append, run_firstField, hfields, List.append_nil]
    show [Token.endObject].foldlM step ⟨.object (field :: fields).reverse :: opened, .separator⟩ = _
    rw [run_word]
    show place (.object (field :: fields).reverse.reverse) opened = _
    rw [List.reverse_reverse]

/-- The words between two brackets put each item in the array. -/
theorem run_items (held : List Json) (outer : List Opened) : ∀ items : List Json, items ≠ [] →
    (tokensOfItems items).foldlM step ⟨.array held :: outer, .value⟩
      = some ⟨.array (items.reverse ++ held) :: outer, .separator⟩
  | [], hne => absurd rfl hne
  | [item], _ => by
    rw [tokensOfItems, run_tokens]
    rfl
  | item :: next :: items, _ => by
    have hrest := run_items (item :: held) outer (next :: items) (List.cons_ne_nil _ _)
    rw [tokensOfItems, List.foldlM_append, run_tokens]
    · show (tokensOfItems (next :: items)).foldlM step ⟨.array (item :: held) :: outer, .value⟩ = _
      rw [hrest, List.reverse_cons (a := item), List.append_assoc]
      rfl
    · exact List.cons_ne_nil _ _

/-- The words between two braces put each field in the object. -/
theorem run_fields (held : List (Option String × Json)) (outer : List Opened) :
    ∀ fields : List (Option String × Json), fields ≠ [] →
    (tokensOfFields fields).foldlM step ⟨.object held :: outer, .key⟩
      = some ⟨.object (fields.reverse ++ held) :: outer, .separator⟩
  | [], hne => absurd rfl hne
  | [(key, value)], _ => by
    rw [tokensOfFields]
    show (tokens value).foldlM step ⟨.field held key :: outer, .value⟩ = _
    rw [run_tokens]
    rfl
  | (key, value) :: next :: fields, _ => by
    have hrest := run_fields ((key, value) :: held) outer (next :: fields) (List.cons_ne_nil _ _)
    rw [tokensOfFields]
    · show (tokens value ++ .comma :: tokensOfFields (next :: fields)).foldlM step
        ⟨.field held key :: outer, .value⟩ = _
      rw [List.foldlM_append, run_tokens]
      show (tokensOfFields (next :: fields)).foldlM step
        ⟨.object ((key, value) :: held) :: outer, .key⟩ = _
      rw [hrest, List.reverse_cons (a := (key, value)), List.append_assoc]
      rfl
    · exact List.cons_ne_nil _ _

end

/-- **The words of a document spell it.** -/
theorem ofTokens?_tokens (document : Json) : ofTokens? (tokens document) = some document := by
  rw [ofTokens?, run_tokens]
  rfl

/-! ## §2. Numbers do not touch -/

/-- Words may stand on both sides of one that is no number. -/
theorem isChain_append_cons (words : List Token) (token : Token) (words' : List Token)
    (hother : token.isNumber = false) (hwords : words.IsChain Token.MayTouch)
    (hwords' : words'.IsChain Token.MayTouch) :
    (words ++ token :: words').IsChain Token.MayTouch := by
  have hcons : (token :: words').IsChain Token.MayTouch := by
    refine List.isChain_cons.mpr ⟨fun _ _ hnumber => ?_, hwords'⟩
    rw [hother] at hnumber
    cases hnumber
  refine hwords.append hcons fun _ _ after hafter _ => ?_
  cases hafter
  exact hother

mutual

/-- **No two numbers touch** in the words of a document. -/
theorem isChain_tokens : ∀ document : Json, (tokens document).IsChain Token.MayTouch
  | .null => .singleton _
  | .bool _ => .singleton _
  | .number _ => .singleton _
  | .string _ => .singleton _
  | .array items => by
    have hitems := isChain_append_cons _ .endArray [] rfl (isChain_tokensOfItems items) .nil
    exact isChain_append_cons [] .beginArray _ rfl .nil hitems
  | .object fields => by
    have hfields := isChain_append_cons _ .endObject [] rfl (isChain_tokensOfFields fields) .nil
    exact isChain_append_cons [] .beginObject _ rfl .nil hfields

theorem isChain_tokensOfItems : ∀ items : List Json,
    (tokensOfItems items).IsChain Token.MayTouch
  | [] => .nil
  | [item] => by
    rw [tokensOfItems]
    exact isChain_tokens item
  | item :: next :: items => by
    rw [tokensOfItems]
    · exact isChain_append_cons _ .comma _ rfl (isChain_tokens item)
        (isChain_tokensOfItems (next :: items))
    · exact List.cons_ne_nil _ _

theorem isChain_tokensOfFields : ∀ fields : List (Option String × Json),
    (tokensOfFields fields).IsChain Token.MayTouch
  | [] => .nil
  | [(key, value)] => by
    rw [tokensOfFields]
    exact isChain_append_cons [.string key] .colon _ rfl (.singleton _) (isChain_tokens value)
  | (key, value) :: next :: fields => by
    have hrest := isChain_append_cons _ .comma _ rfl (isChain_tokens value)
      (isChain_tokensOfFields (next :: fields))
    rw [tokensOfFields]
    · exact isChain_append_cons [.string key] .colon _ rfl (.singleton _) hrest
    · exact List.cons_ne_nil _ _

end

/-! ## §3. Texts of documents -/

/-- A text of a document: its words, with blanks before each word and at the end. -/
def layOut (blanks : Nat → List Char) (document : Json) : String :=
  String.ofList (Token.spread blanks 0 document.tokens)

/-- The shortest text has no blanks. -/
theorem render_eq_layOut (document : Json) : document.render = layOut (fun _ => []) document := by
  have hwords : ∀ n words, Token.spread (fun _ => []) n words = words.flatMap Token.chars := by
    intro n words
    induction words generalizing n with
    | nil => rfl
    | cons word words ih =>
      rw [Token.spread, ih, List.nil_append, List.flatMap_cons]
  rw [render, layOut, hwords]

/-- **A document is read as it was written**, with any blanks between its words, if
    its words can be read. -/
theorem parse?_layOut {blanks : Nat → List Char}
    (hblanks : ∀ n, ∀ c ∈ blanks n, Token.isBlank c = true) {document : Json}
    (hreads : ∀ token ∈ document.tokens, token.Reads) :
    parse? (layOut blanks document) = some document := by
  rw [parse?, layOut, String.toList_ofList,
    Token.scan_spread hblanks 0 hreads (isChain_tokens document), Option.bind_some,
    ofTokens?_tokens]

/-- The words of an object can be read if those of its values can. -/
theorem reads_tokensOfFields : ∀ {fields : List (Option String × Json)},
    (∀ field ∈ fields, ∀ word ∈ tokens field.2, word.Reads) →
    ∀ word ∈ tokensOfFields fields, word.Reads
  | [], _ => nofun
  | [(key, value)], hvalues => by
    have hvalue := hvalues (key, value) List.mem_cons_self
    rw [tokensOfFields]
    exact List.forall_mem_cons.mpr ⟨Token.reads_of_not_literal nofun,
      List.forall_mem_cons.mpr ⟨Token.reads_of_not_literal nofun, hvalue⟩⟩
  | (key, value) :: next :: fields, hvalues => by
    obtain ⟨hvalue, hrest⟩ := List.forall_mem_cons.mp hvalues
    have hnext := reads_tokensOfFields hrest
    rw [tokensOfFields]
    · refine List.forall_mem_cons.mpr ⟨Token.reads_of_not_literal nofun,
        List.forall_mem_cons.mpr ⟨Token.reads_of_not_literal nofun, ?_⟩⟩
      exact List.forall_mem_append.mpr ⟨hvalue,
        List.forall_mem_cons.mpr ⟨Token.reads_of_not_literal nofun, hnext⟩⟩
    · exact List.cons_ne_nil _ _

theorem reads_object {fields : List (Option String × Json)}
    (hvalues : ∀ field ∈ fields, ∀ word ∈ tokens field.2, word.Reads) :
    ∀ word ∈ tokens (.object fields), word.Reads := by
  rw [tokens, List.cons_append]
  refine List.forall_mem_cons.mpr ⟨Token.reads_of_not_literal nofun, ?_⟩
  refine List.forall_mem_append.mpr ⟨reads_tokensOfFields hvalues, ?_⟩
  exact List.forall_mem_singleton.mpr (Token.reads_of_not_literal nofun)

end ZWaveHost.Json
