import OptionProtocol.Proofs.Handler.Collecting

/-! What reading one option and assigning a row can do: an option finds nothing, an announcement
or values, the value is kept or the old one stays, and the tokens that go on are some of those
left before. -/

set_option autoImplicit false

namespace OptionProtocol

open TokenSequence

namespace OptionSpec

variable {spec : OptionSpec} (reader : ObjectReader) {s : TokenSequence}

section

variable (single : spec.isArray = false) (flag : spec.kind = .flag)

include single flag

theorem parse_set {after : List Token} (taken : takeFirst? spec.flag s.tokens = some after) :
    spec.parse reader s = (.done (.bool true), ⟨after⟩) := by
  simp [OptionSpec.parse, single, TokenSequence.parse, flag, takeFlag, taken]

theorem parse_unset (taken : takeFirst? spec.flag s.tokens = none) :
    spec.parse reader s = (.done (.bool false), s) := by
  simp [OptionSpec.parse, single, TokenSequence.parse, flag, takeFlag, taken]

end

section

variable (single : spec.isArray = false) (valued : spec.kind ≠ .flag)

include single valued

theorem parse_absent (taken : takePair spec.flag s.tokens = .absent) :
    spec.parse reader s = (.done spec.default, s) := by
  simp [OptionSpec.parse, single, TokenSequence.parse, valued, takeValue, taken]

theorem parse_valueless (taken : takePair spec.flag s.tokens = .valueless) :
    spec.parse reader s = (.fail (noValue spec.flag), s) := by
  simp [OptionSpec.parse, single, TokenSequence.parse, valued, takeValue, taken]

theorem parse_value {raw : String} {after : List Token}
    (taken : takePair spec.flag s.tokens = .value raw after) :
    spec.parse reader s = (decode reader raw spec.kind (some spec.flag) spec.base, ⟨after⟩) := by
  simp [OptionSpec.parse, single, TokenSequence.parse, valued, takeValue, taken]

end

theorem copyDefault_of_items {default : Value} (empty : default.items = .ok []) :
    copyDefault default = .ok (.list []) := by
  cases default with
  | absent => simp [Value.items] at empty
  | _ => simp [copyDefault, empty]

section

variable {reader} (array : spec.isArray = true) (valued : spec.kind ≠ .flag)

include array valued

theorem parse_array_tokens :
    (spec.parse reader s).2 =
      ⟨(collect (fun raw => decode reader raw spec.kind (some spec.flag) spec.base)
        spec.flag s.tokens).2⟩ := by
  simp [OptionSpec.parse, array, parseArray, valued]

-- Without an announcement the default is copied, so an empty list is only told from the default
-- where that is empty too.
theorem parse_array_ok {new : Value} (read : (spec.parse reader s).1.result = .ok new) :
    ∃ items, (collect (fun raw => decode reader raw spec.kind (some spec.flag) spec.base)
        spec.flag s.tokens).1.result = .ok items ∧
      (items = [] ∧ copyDefault spec.default = .ok new ∨ items ≠ [] ∧ new = .list items) := by
  cases collected : (collect (fun raw => decode reader raw spec.kind (some spec.flag) spec.base)
      spec.flag s.tokens).1.result with
  | error fault => simp [OptionSpec.parse, array, parseArray, valued, collected] at read
  | ok items =>
    refine ⟨items, rfl, ?_⟩
    cases items with
    | nil =>
      have copied : copyDefault spec.default = .ok new := by
        simpa [OptionSpec.parse, array, parseArray, valued, collected] using read
      exact .inl ⟨rfl, copied⟩
    | cons first more =>
      have list : Value.list (first :: more) = new := by
        simpa [OptionSpec.parse, array, parseArray, valued, collected] using read
      exact .inr ⟨by simp, list.symm⟩

theorem parse_array_list {items : List Value}
    (read : (collect (fun raw => decode reader raw spec.kind (some spec.flag) spec.base)
      spec.flag s.tokens).1.result = .ok items)
    (traced : items = [] → spec.default.items = .ok []) :
    (spec.parse reader s).1.result = .ok (.list items) := by
  cases items with
  | nil =>
    have copied := copyDefault_of_items (traced rfl)
    simp [OptionSpec.parse, array, parseArray, valued, read, copied]
  | cons item items => simp [OptionSpec.parse, array, parseArray, valued, read]

end

end OptionSpec

theorem OptionSpec.remaining_parse (spec : OptionSpec) (reader : ObjectReader)
    (s : TokenSequence) : ((spec.parse reader s).2.remaining).Sublist s.remaining := by
  unfold OptionSpec.parse
  split
  · unfold TokenSequence.parseArray
    split
    · exact List.Sublist.refl _
    · exact remaining_collect _ _ _
  · unfold TokenSequence.parse
    split
    · unfold takeFlag
      cases taken : takeFirst? spec.flag s.tokens with
      | none => exact List.Sublist.refl _
      | some after =>
        -- Only the announcement itself is gone.
        obtain ⟨before, behind, whole, left⟩ := remaining_takeFirst? taken
        change (remaining ⟨after⟩).Sublist (remaining ⟨s.tokens⟩)
        rw [whole, left]
        exact (List.Sublist.refl before).append (List.sublist_cons_self _ _)
    · cases taken : s.takeValue spec.flag with
      | value text after => exact (sublist_of_takePair taken).1
      | _ => exact List.Sublist.refl _

/-- The value that an option has after `new` was read for it. -/
inductive OptionSpec.Keeps (spec : OptionSpec) (old new : Value) : Value → Prop where
  | new (accepted : spec.accepts new = .ok true) : Keeps spec old new new
  | old (rejected : spec.accepts new = .ok false) : Keeps spec old new old

theorem OptionSpec.Keeps.eq_new {spec : OptionSpec} {old new kept : Value}
    (keeps : spec.Keeps old new kept) (accepted : spec.accepts new = .ok true) : kept = new := by
  cases keeps with
  | new => rfl
  | old rejected =>
    rw [accepted] at rejected
    cases rejected

/-- Why assigning a row stops at an option: nothing could be read for it, or its constraint has no
answer for what was read. -/
inductive OptionSpec.Stops (spec : OptionSpec) : Except OptionFault Value → OptionFault → Prop where
  | unread (fault : OptionFault) : Stops spec (.error fault) fault
  | unsettled {new : Value} {fault : ValueFault} (accepts : spec.accepts new = .error fault) :
      Stops spec (.ok new) (.ofValue fault)

/-- Assigning a row stops at its first option and leaves the row as it is, or goes on behind it. -/
theorem assignRow_cons_cases (reader : ObjectReader) (spec : OptionSpec)
    (specs : List OptionSpec) (old : Value) (row : List Value) (s : TokenSequence) :
    (∃ fault, spec.Stops (spec.parse reader s).1.result fault ∧
      assignRow reader (spec :: specs) (old :: row) s =
        { row := old :: row, tokens := (spec.parse reader s).2,
          rejected := (spec.parse reader s).1.rejected, fault := some fault }) ∨
    ∃ new kept rejected, (spec.parse reader s).1.result = .ok new ∧ spec.Keeps old new kept ∧
      assignRow reader (spec :: specs) (old :: row) s =
        (assignRow reader specs row (spec.parse reader s).2).after kept rejected := by
  simp only [assignRow]
  cases result : (spec.parse reader s).1.result with
  | error fault => exact .inl ⟨fault, .unread fault, rfl⟩
  | ok new =>
    cases accepts : spec.accepts new with
    | error fault =>
      simp only [accepts]
      exact .inl ⟨_, .unsettled accepts, rfl⟩
    | ok accepted =>
      simp only [accepts]
      cases accepted with
      | true => exact .inr ⟨new, new, _, rfl, .new accepts, rfl⟩
      | false => exact .inr ⟨new, old, _, rfl, .old accepts, rfl⟩

theorem remaining_assignRow (reader : ObjectReader) (specs : List OptionSpec)
    (row : List Value) (s : TokenSequence) :
    ((assignRow reader specs row s).tokens.remaining).Sublist s.remaining := by
  induction specs generalizing row s with
  | nil => exact List.Sublist.refl _
  | cons spec specs ih =>
    cases row with
    | nil => exact List.Sublist.refl _
    | cons old row =>
      have first := spec.remaining_parse reader s
      obtain ⟨_, _, run⟩ | ⟨_, _, _, _, _, run⟩ :=
        assignRow_cons_cases reader spec specs old row s
      · rw [run]
        exact first
      · rw [run]
        exact (ih row (spec.parse reader s).2).trans first

end OptionProtocol
