import OptionProtocol.Proofs.Handler.ValueRoundTrip

/-! The tokens of values that fit their options: they can always be written, and they are the
announcements and the texts of the values. -/

set_option autoImplicit false

namespace OptionProtocol

open TokenSequence

namespace OptionSpec

variable {spec : OptionSpec} {value : Value} {own : List String}

theorem Fits.emits (fits : spec.Fits value) (written : spec.tokens value = .ok own) :
    spec.Emits value own := by
  cases fits with
  | single single kind =>
    rw [tokens_single single kind.ne_flag] at written
    obtain ⟨text, encoded, rfl⟩ := map_eq_ok.mp written
    exact .single single kind.ne_flag encoded
  | flag single flag isSet =>
    cases isSet with
    | true =>
      rw [(Emits.set single flag).tokens_eq] at written
      cases written
      exact .set single flag
    | false =>
      rw [(Emits.unset single flag).tokens_eq] at written
      cases written
      exact .unset single flag
  | array array valued sequence kinds traced =>
    rw [tokens_array array sequence] at written
    obtain ⟨texts, encoded, rfl⟩ := Value.itemTokens_eq_ok.mp written
    exact .array array valued sequence encoded

theorem Fits.mem_valueTexts (fits : spec.Fits value) {text : String}
    (member : text ∈ spec.valueTexts value) :
    ∃ part ∈ value.parts, part.OfKind spec.base spec.kind ∧ part.encode spec.kind = .ok text := by
  cases fits with
  | single single kind =>
    simp only [valueTexts, kind.ne_flag, if_false, single, Bool.false_eq_true,
      Option.mem_toList] at member
    exact ⟨value, by simp [kind.parts_eq], kind, toOption_eq_some.mp member⟩
  | flag single flag isSet => simp [valueTexts, flag] at member
  | array array valued sequence kinds traced =>
    have parts := Value.parts_of_sequence sequence
    simp only [valueTexts, valued, if_false, array, if_true, List.mem_filterMap] at member
    obtain ⟨part, inside, shown⟩ := member
    exact ⟨part, inside, kinds part (parts ▸ inside), toOption_eq_some.mp shown⟩

theorem exists_encode (kind : value.OfKind spec.base spec.kind)
    (inner : value.Inside fun handler => ∃ line, handler.commandLine = .ok line) :
    ∃ text, value.encode spec.kind = .ok text := by
  obtain ⟨_, encoded⟩ | ⟨object, handler, rfl, _⟩ := kind.scalar_or_object
  · exact encoded
  · rw [object]
    exact Value.Inside.here handler inner

theorem exists_texts {items : List Value}
    (kinds : ∀ item ∈ items, item.OfKind spec.base spec.kind)
    (inner : ∀ item ∈ items, item.Inside fun handler => ∃ line, handler.commandLine = .ok line) :
    ∃ texts, List.Forall₂ (fun item text => item.encode spec.kind = .ok text) items texts := by
  induction items with
  | nil => exact ⟨[], .nil⟩
  | cons item items ih =>
    obtain ⟨kind, kinds⟩ := List.forall_mem_cons.mp kinds
    obtain ⟨here, inner⟩ := List.forall_mem_cons.mp inner
    obtain ⟨text, first⟩ := exists_encode kind here
    obtain ⟨texts, rest⟩ := ih kinds inner
    exact ⟨text :: texts, .cons first rest⟩

theorem Fits.exists_tokens (fits : spec.Fits value)
    (inner : value.Inside fun handler => ∃ line, handler.commandLine = .ok line) :
    ∃ own, spec.tokens value = .ok own := by
  cases fits with
  | single single kind =>
    obtain ⟨text, encoded⟩ := exists_encode kind inner
    exact ⟨_, (Emits.single single kind.ne_flag encoded).tokens_eq⟩
  | flag single flag isSet =>
    cases isSet with
    | true => exact ⟨_, (Emits.set single flag).tokens_eq⟩
    | false => exact ⟨_, (Emits.unset single flag).tokens_eq⟩
  | array array valued sequence kinds traced =>
    have parts := Value.parts_of_sequence sequence
    obtain ⟨texts, encoded⟩ := exists_texts kinds fun item member =>
      (kinds item member).inside (parts ▸ member) inner
    exact ⟨_, (Emits.array array valued sequence encoded).tokens_eq⟩

-- The paths of a value are among its texts.
theorem Fits.path_mem_valueTexts (fits : spec.Fits value) {path : FilePath}
    (part : .path path ∈ value.parts) : path.text ∈ spec.valueTexts value := by
  have encoded {kind : Kind} (isPath : kind = .path) :
      ((Value.path path).encode kind).toOption = some path.text := by
    subst isPath
    rfl
  cases fits with
  | single single kind =>
    rw [kind.parts_eq, List.mem_singleton] at part
    subst part
    simp [valueTexts, kind.ne_flag, single, encoded kind.eq_path]
  | flag => simp [Value.parts] at part
  | array array valued sequence kinds traced =>
    have isPath := (kinds _ (Value.parts_of_sequence sequence ▸ part)).eq_path
    simp only [valueTexts, valued, if_false, array, if_true, List.mem_filterMap]
    exact ⟨.path path, part, encoded isPath⟩

end OptionSpec

theorem exists_rowTokens {specs : List OptionSpec} {row : List Value}
    (fits : List.Forall₂ OptionSpec.Fits specs row)
    (inner : ∀ value ∈ row,
      value.Inside fun handler => ∃ line, handler.commandLine = .ok line) :
    ∃ own, Value.rowTokens specs row = .ok own := by
  induction fits with
  | nil => exact ⟨[], Value.rowTokens_nil _⟩
  | cons first _ ih =>
    obtain ⟨here, inner⟩ := List.forall_mem_cons.mp inner
    obtain ⟨own, written⟩ := first.exists_tokens here
    obtain ⟨more, rest⟩ := ih inner
    exact ⟨own ++ more, Value.rowTokens_cons_ok written rest⟩

theorem exists_levelTokens {levels : List Level} {rows : List (List Value)}
    (fits : List.Forall₂ (fun level row => List.Forall₂ OptionSpec.Fits level.options row)
      levels rows)
    (inner : ∀ row ∈ rows, ∀ value ∈ row,
      value.Inside fun handler => ∃ line, handler.commandLine = .ok line) :
    ∃ tokens, Value.levelTokens levels rows = .ok tokens := by
  induction fits with
  | nil => exact ⟨[], Value.levelTokens_nil _⟩
  | cons first _ ih =>
    obtain ⟨here, inner⟩ := List.forall_mem_cons.mp inner
    obtain ⟨own, written⟩ := exists_rowTokens first here
    obtain ⟨above, rest⟩ := ih inner
    exact ⟨own ++ above, Value.levelTokens_cons_ok written rest⟩

namespace Handler

/-- All values fit their options, whether or not they pass the constraints. -/
def Fitted (handler : Handler) : Prop :=
  List.Forall₂ (fun level row => List.Forall₂ OptionSpec.Fits level.options row)
    handler.id.levels handler.rows

theorem Valid.fitted {handler : Handler} (valid : handler.Valid) : handler.Fitted :=
  valid.fits.imp fun _ _ row => row.imp fun _ _ value => value.1

/-- The command line of a tree of handlers can be written when their values fit. -/
theorem Throughout.exists_commandLine {handler : Handler} (fitted : handler.Throughout Fitted) :
    ∃ line, handler.commandLine = .ok line := by
  induction fitted with
  | @node handler here _ ih =>
    obtain ⟨tokens, written⟩ := exists_levelTokens here (forall_holds_iff.mp ih)
    exact ⟨_, commandLine_eq_ok.mpr ⟨tokens, written, rfl⟩⟩

theorem exists_commandLine {handler : Handler} (valid : handler.Throughout Valid) :
    ∃ line, handler.commandLine = .ok line :=
  (valid.mono fun _ here => here.fitted).exists_commandLine

end Handler

theorem RowFits.rowTexts_subset {specs : List OptionSpec} {row : List Value}
    (fits : RowFits specs row) {own : List String} (written : Value.rowTokens specs row = .ok own) :
    rowTexts specs row ⊆ own := by
  induction fits generalizing own with
  | nil => simp [rowTexts]
  | cons first _ ih =>
    obtain ⟨own, more, writtenOwn, writtenMore, rfl⟩ := Value.rowTokens_eq_ok written
    intro text member
    rw [rowTexts, List.mem_append] at member
    rw [List.mem_append]
    exact member.imp ((first.1.emits writtenOwn).valueTexts_subset ·) (ih writtenMore ·)

end OptionProtocol
