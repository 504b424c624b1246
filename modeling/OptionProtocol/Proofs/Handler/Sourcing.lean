import OptionProtocol.Proofs.Handler.Assigning
import OptionProtocol.Proofs.TokenSequence.Conservation

/-! Where the values of a row come from. The takes behind a reading tell at which places its texts
stood, so every text that a value was read from is known to stand behind its announcement. -/

set_option autoImplicit false

namespace OptionProtocol

open TokenSequence

/-- Where a value that was assigned to an option came from: every text that it was read from stood
directly behind an announcement of the option. -/
inductive OptionSpec.Sourced (reader : ObjectReader) (texts : List String) (spec : OptionSpec) :
    Value → Prop where
  | default (valued : spec.kind ≠ .flag) (single : spec.isArray = false) :
      Sourced reader texts spec spec.default
  | copied (array : spec.isArray = true) {copy : Value}
      (copied : copyDefault spec.default = .ok copy) : Sourced reader texts spec copy
  | flag (flag : spec.kind = .flag) (isSet : Bool)
      (announced : isSet = true → announce spec.flag ∈ texts) :
      Sourced reader texts spec (.bool isSet)
  | value (single : spec.isArray = false) {raw : String} {value : Value}
      (follows : [announce spec.flag, raw] <:+: texts)
      (read : (decode reader raw spec.kind (some spec.flag) spec.base).result = .ok value) :
      Sourced reader texts spec value
  | items (array : spec.isArray = true) {items : List Value}
      (each : ∀ item ∈ items, ∃ raw, [announce spec.flag, raw] <:+: texts ∧
        (decode reader raw spec.kind (some spec.flag) spec.base).result = .ok item) :
      Sourced reader texts spec (.list items)

section

variable {reader : ObjectReader} {spec : OptionSpec} {texts : List String} {takes : List Take}

theorem TokenSequence.Take.Holds.follows {flag text : String} {place : Nat}
    (holds : (Take.value flag place text).Holds texts) : [announce flag, text] <:+: texts :=
  pair_infix_iff.mpr ⟨place, holds⟩

theorem TokenSequence.ItemsTaken.sourced {decodeItem : String → Attempt Value} {flag : String}
    {found : Except OptionFault (List Value)} (taken : ItemsTaken decodeItem flag found takes)
    (holds : ∀ take ∈ takes, take.Holds texts) {items : List Value} (read : found = .ok items) :
    ∀ item ∈ items, ∃ raw, [announce flag, raw] <:+: texts ∧
      (decodeItem raw).result = .ok item := by
  induction taken generalizing items with
  | done =>
    cases read
    simp
  | valueless => cases read
  | unread => cases read
  | item place first _ ih =>
    obtain ⟨here, holds⟩ := List.forall_mem_cons.mp holds
    obtain ⟨more, rest, rfl⟩ := map_eq_ok.mp read
    intro item member
    rcases List.mem_cons.mp member with rfl | member
    · exact ⟨_, here.follows, first⟩
    · exact ih holds rest item member

/-- The call that reads the option. -/
def OptionSpec.call (spec : OptionSpec) : Call :=
  if spec.isArray then .parseArray spec.flag spec.default spec.kind spec.base
  else .parse spec.flag spec.default spec.kind spec.base

theorem OptionSpec.run_call (reader : ObjectReader) (spec : OptionSpec) (s : TokenSequence) :
    spec.call.run reader s = (.value (spec.parse reader s).1, (spec.parse reader s).2) := by
  unfold OptionSpec.call OptionSpec.parse
  split <;> rfl

theorem OptionSpec.sourced_of_reports {attempt : Attempt Value}
    (reports : spec.call.Reports reader (.value attempt) takes)
    (holds : ∀ take ∈ takes, take.Holds texts) {new : Value} (read : attempt.result = .ok new) :
    spec.Sourced reader texts new := by
  obtain ⟨field, flag, kind, isArray, default, base, constraint, tip⟩ := spec
  cases isArray with
  | true =>
    change Call.Reports reader (.parseArray flag default kind base) _ _ at reports
    cases reports with
    | parseBareArray => cases read
    | @parseArray _ _ _ _ _ found _ taken _ result =>
      rw [result] at read
      cases found with
      | error fault => cases read
      | ok items =>
        have each := taken.sourced holds rfl
        cases items with
        | nil => exact .copied rfl read
        | cons item items =>
          cases read
          exact .items rfl each
  | false =>
    change Call.Reports reader (.parse flag default kind base) _ _ at reports
    cases reports with
    | @parseBare _ _ _ found _ taken =>
      cases read
      refine .flag rfl found fun set => ?_
      cases taken with
      | unset => cases set
      | set place => exact List.mem_of_getElem? (holds _ List.mem_cons_self)
    | @parse _ _ _ _ valued found _ taken =>
      cases taken with
      | absent =>
        cases read
        exact .default valued rfl
      | valueless => cases read
      | value place text => exact .value rfl (holds _ List.mem_cons_self).follows read

theorem OptionSpec.parse_sourced (reader : ObjectReader) (spec : OptionSpec)
    (s : TokenSequence) :
    (spec.parse reader s).2.texts = s.texts ∧
      ∀ new, (spec.parse reader s).1.result = .ok new → spec.Sourced reader s.texts new := by
  obtain ⟨takes, trail, reports⟩ := spec.call.run_trail reader s
  rw [spec.run_call] at trail reports
  refine ⟨?_, fun new read => ?_⟩
  · rw [TokenSequence.texts, trail.eq_markAll, texts_markAll]
    rfl
  · exact OptionSpec.sourced_of_reports reports (fun take member => trail.holds member) read

end

/-- Every value of a row is what it was before, or came from texts behind its own announcement. -/
def RowSourced (reader : ObjectReader) (texts : List String) :
    List OptionSpec → List Value → List Value → Prop
  | spec :: specs, old :: row, new :: after =>
      (new = old ∨ spec.Sourced reader texts new) ∧ RowSourced reader texts specs row after
  | _, row, after => after = row

theorem RowSourced.refl (reader : ObjectReader) (texts : List String) (specs : List OptionSpec)
    (row : List Value) : RowSourced reader texts specs row row := by
  induction specs generalizing row with
  | nil => cases row <;> rfl
  | cons spec specs ih =>
    cases row with
    | nil => rfl
    | cons old row => exact ⟨.inl rfl, ih row⟩

theorem assignRow_sourced (reader : ObjectReader) (specs : List OptionSpec) (row : List Value)
    (s : TokenSequence) :
    (assignRow reader specs row s).tokens.texts = s.texts ∧
      RowSourced reader s.texts specs row (assignRow reader specs row s).row := by
  induction specs generalizing row s with
  | nil => exact ⟨rfl, .refl _ _ _ _⟩
  | cons spec specs ih =>
    cases row with
    | nil => exact ⟨rfl, .refl _ _ _ _⟩
    | cons old row =>
      obtain ⟨texts, sourced⟩ := spec.parse_sourced reader s
      obtain ⟨_, _, run⟩ | ⟨new, kept, _, read, keeps, run⟩ :=
        assignRow_cons_cases reader spec specs old row s
      · rw [run]
        exact ⟨texts, .refl _ _ _ _⟩
      · obtain ⟨left, rest⟩ := ih row (spec.parse reader s).2
        rw [texts] at left rest
        rw [run]
        refine ⟨left, ?_, rest⟩
        cases keeps with
        | new => exact .inr (sourced new read)
        | old => exact .inl rfl

end OptionProtocol
