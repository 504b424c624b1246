import OptionProtocol.Proofs.Handler.Constrained

/-! Taking options depends on the tokens alone. Two handlers of a class read the same values from the
same tokens, whatever they held before, and what they held only stays where a value was turned down.
So the same tokens taken again change nothing. -/

set_option autoImplicit false

namespace OptionProtocol

open TokenSequence

/-- The runs tell the same about the tokens. -/
structure RowRun.Agrees (run other : RowRun) : Prop where
  tokens : run.tokens = other.tokens
  rejected : run.rejected = other.rejected
  fault : run.fault = other.fault

theorem RowRun.Agrees.after {run other : RowRun} (agrees : run.Agrees other)
    (value another : Value) (earlier : List Rejection) :
    (run.after value earlier).Agrees (other.after another earlier) where
  tokens := agrees.tokens
  rejected := congrArg (earlier ++ ·) agrees.rejected
  fault := agrees.fault

/-- Rows with the same number of values. -/
def SameSize (row other : List Value) : Prop := row.length = other.length

section

variable (reader : ObjectReader)

theorem assignRow_agrees (specs : List OptionSpec) {row other : List Value}
    (same : SameSize row other) (s : TokenSequence) :
    (assignRow reader specs row s).Agrees (assignRow reader specs other s) := by
  induction specs generalizing row other s with
  | nil => exact ⟨rfl, rfl, rfl⟩
  | cons spec specs ih =>
    cases row with
    | nil =>
      obtain rfl := List.length_eq_zero_iff.mp same.symm
      exact ⟨rfl, rfl, rfl⟩
    | cons old row =>
      cases other with
      | nil => cases same
      | cons older other =>
        have rest := ih (Nat.succ.inj same) (spec.parse reader s).2
        simp only [assignRow]
        split
        · exact ⟨rfl, rfl, rfl⟩
        · split
          · exact ⟨rfl, rfl, rfl⟩
          · exact rest.after _ _ _
          · exact rest.after _ _ _

theorem assignLevels_agree (levels : List Level) {rows others : List (List Value)}
    (same : List.Forall₂ SameSize rows others) (tokens : List String) :
    (assignLevels reader levels rows tokens).leftover =
        (assignLevels reader levels others tokens).leftover ∧
      (assignLevels reader levels rows tokens).rejected =
        (assignLevels reader levels others tokens).rejected ∧
      levelReadings reader levels rows tokens = levelReadings reader levels others tokens := by
  induction levels generalizing rows others tokens with
  | nil => exact ⟨rfl, rfl, rfl⟩
  | cons level levels ih =>
    cases same with
    | nil => exact ⟨rfl, rfl, rfl⟩
    | @cons row other rows others here above =>
      have first := assignRow_agrees reader level.options here (ofTexts tokens)
      obtain ⟨leftover, rejected, readings⟩ :=
        ih above (assignRow reader level.options other (ofTexts tokens)).tokens.remaining
      simp only [assignLevels, levelReadings, first.tokens, first.rejected, first.fault]
      cases (assignRow reader level.options other (ofTexts tokens)).fault with
      | some fault => exact ⟨rfl, rfl, rfl⟩
      | none => exact ⟨leftover, congrArg (_ ++ ·) rejected, congrArg (_ :: ·) readings⟩

end

namespace OptionSpec

variable (spec : OptionSpec) (old new : Value)

theorem assigned_assigned : spec.assigned (spec.assigned old new) new = spec.assigned old new := by
  by_cases allowed : spec.Allows new
  · rw [assigned_of_allows allowed, assigned_of_allows allowed]
  · rw [assigned_of_not_allows allowed]

end OptionSpec

theorem assignedRow_assignedRow (specs : List OptionSpec) (news row : List Value) :
    assignedRow specs news (assignedRow specs news row) = assignedRow specs news row := by
  induction specs generalizing news row with
  | nil => cases news <;> rfl
  | cons spec specs ih =>
    cases news with
    | nil => rfl
    | cons new news =>
      cases row with
      | nil => rfl
      | cons old row => simp only [assignedRow, OptionSpec.assigned_assigned, ih]

theorem assignedRows_assignedRows (levels : List Level) (more rows : List (List Value)) :
    assignedRows levels more (assignedRows levels more rows) = assignedRows levels more rows := by
  induction levels generalizing more rows with
  | nil => cases more <;> rfl
  | cons level levels ih =>
    cases more with
    | nil => rfl
    | cons news more =>
      cases rows with
      | nil => rfl
      | cons row rows => simp only [assignedRows, assignedRow_assignedRow, ih]

theorem sameSize_assignedRow (specs : List OptionSpec) (news row : List Value) :
    SameSize (assignedRow specs news row) row := by
  induction specs generalizing news row with
  | nil => cases news <;> rfl
  | cons spec specs ih =>
    cases news with
    | nil => rfl
    | cons new news =>
      cases row with
      | nil => rfl
      | cons old row => exact congrArg Nat.succ (ih news row)

theorem sameSize_assignedRows (levels : List Level) (more rows : List (List Value)) :
    List.Forall₂ SameSize (assignedRows levels more rows) rows := by
  have refl (rows : List (List Value)) : List.Forall₂ SameSize rows rows :=
    List.forall₂_same.mpr fun _ _ => rfl
  induction levels generalizing more rows with
  | nil => cases more <;> exact refl rows
  | cons level levels ih =>
    cases more with
    | nil => exact refl rows
    | cons news more =>
      cases rows with
      | nil => exact .nil
      | cons row rows => exact .cons (sameSize_assignedRow level.options news row) (ih more rows)

/-- There is one value for each option of each level. -/
def Filled (levels : List Level) (rows : List (List Value)) : Prop :=
  List.Forall₂ (fun level row => row.length = level.options.length) levels rows

namespace Filled

variable {levels : List Level} {rows others : List (List Value)}

theorem sameSize (filled : Filled levels rows) (other : Filled levels others) :
    List.Forall₂ SameSize rows others := by
  induction filled generalizing others with
  | nil =>
    cases other
    exact .nil
  | cons here _ ih =>
    cases other with
    | cons first above => exact .cons (here.trans first.symm) (ih above)

theorem of_sameSize (filled : Filled levels rows) (same : List.Forall₂ SameSize others rows) :
    Filled levels others := by
  induction filled generalizing others with
  | nil =>
    cases same
    exact .nil
  | cons here _ ih =>
    cases same with
    | cons first above => exact .cons (first.trans here) (ih above)

theorem exists_cell (filled : Filled levels rows) {height place : Nat} {spec : OptionSpec}
    (option : cell? (levels.map Level.options) height place = some spec) :
    ∃ value, cell? rows height place = some value := by
  induction filled generalizing height with
  | nil => simp [cell?] at option
  | @cons level row levels rows here above ih =>
    cases height with
    | zero =>
      obtain ⟨inside, _⟩ := List.getElem?_eq_some_iff.mp option
      exact ⟨row[place], List.getElem?_eq_getElem (here ▸ inside)⟩
    | succ height => exact ih option

end Filled

section

variable (reader : ObjectReader)

theorem length_rowReadings {specs : List OptionSpec} {row : List Value} {s : TokenSequence}
    (filled : row.length = specs.length) (done : (assignRow reader specs row s).fault = none) :
    (rowReadings reader specs s).length = specs.length := by
  induction specs generalizing row s with
  | nil => rfl
  | cons spec specs ih =>
    cases row with
    | nil => cases filled
    | cons old row =>
      obtain ⟨_, _, run⟩ | ⟨new, kept, _, read, keeps, run⟩ :=
        assignRow_cons_cases reader spec specs old row s
      · simp [run] at done
      · rw [run] at done
        have rest := ih (Nat.succ.inj filled) done
        cases keeps with
        | new accepts => simp [rowReadings, read, accepts, rest]
        | old accepts => simp [rowReadings, read, accepts, rest]

/-- When the tokens are accepted, a value was read for every option. -/
theorem filled_levelReadings {levels : List Level} {rows : List (List Value)}
    {tokens leftover : List String} (filled : Filled levels rows)
    (done : (assignLevels reader levels rows tokens).leftover = .ok leftover) :
    Filled levels (levelReadings reader levels rows tokens) := by
  induction filled generalizing tokens with
  | nil => exact .nil
  | @cons level row levels rows here above ih =>
    unfold assignLevels at done
    unfold levelReadings
    cases stopped : (assignRow reader level.options row (ofTexts tokens)).fault with
    | some fault => simp [stopped] at done
    | none =>
      simp only [stopped] at done ⊢
      exact .cons (length_rowReadings reader here stopped) (ih done)

end

/-- The values that tokens give the options of a class, as a new object reads them. -/
def ClassId.readings (id : ClassId) (tokens : List String) : List (List Value) :=
  levelReadings readObject id.levels id.defaultRows tokens

namespace Handler

/-- The handler has one value for each option of its class. -/
def Complete (handler : Handler) : Prop := Filled handler.id.levels handler.rows

theorem fresh_complete (id : ClassId) : (fresh id).Complete := id.length_defaultRows

theorem id_setOptions (handler : Handler) (tokens : List String) :
    (handler.setOptions tokens).2.id = handler.id := rfl

theorem rows_setOptions {handler : Handler} (complete : handler.Complete) (tokens : List String) :
    (handler.setOptions tokens).2.rows =
      assignedRows handler.id.levels (handler.id.readings tokens) handler.rows := by
  have same := complete.sameSize (fresh_complete handler.id)
  have readings := (assignLevels_agree readObject handler.id.levels same tokens).2.2
  exact (assignLevels_rows readObject handler.id.levels handler.rows tokens).trans
    (congrArg (assignedRows handler.id.levels · handler.rows) readings)

theorem attempt_setOptions {first second : Handler} (same : first.id = second.id)
    (one : first.Complete) (other : second.Complete) (tokens : List String) :
    (first.setOptions tokens).1 = (second.setOptions tokens).1 := by
  obtain ⟨id, rows⟩ := first
  obtain ⟨_, others⟩ := second
  cases same
  obtain ⟨leftover, rejected, _⟩ :=
    assignLevels_agree readObject id.levels (one.sameSize other) tokens
  simp only [setOptions, leftover, rejected]

theorem Complete.setOptions {handler : Handler} (complete : handler.Complete)
    (tokens : List String) : (handler.setOptions tokens).2.Complete := by
  unfold Complete
  rw [rows_setOptions complete]
  exact complete.of_sameSize (sameSize_assignedRows _ _ _)

section

variable {field : String} {new : Value}

theorem sameSize_putIn (specs : List OptionSpec) (row : List Value) :
    SameSize (putIn field new specs row) row := by
  induction specs generalizing row with
  | nil => rfl
  | cons spec specs ih =>
    cases row with
    | nil => rfl
    | cons old row =>
      unfold putIn
      split
      · rfl
      · exact congrArg Nat.succ (ih row)

theorem sameSize_putAt (levels : List Level) (rows : List (List Value)) :
    List.Forall₂ SameSize (putAt field new levels rows) rows := by
  have refl (rows : List (List Value)) : List.Forall₂ SameSize rows rows :=
    List.forall₂_same.mpr fun _ _ => rfl
  induction levels generalizing rows with
  | nil => exact refl rows
  | cons level levels ih =>
    cases rows with
    | nil => exact .nil
    | cons row rows =>
      unfold putAt
      split
      · exact .cons (sameSize_putIn level.options row) (refl rows)
      · exact .cons rfl (ih rows)

end

theorem Complete.set {handler : Handler} (complete : handler.Complete) (field : String)
    (value : Value) : (handler.set field value).2.Complete := by
  unfold Handler.set
  split
  · exact complete
  · split
    · exact complete
    · exact complete.of_sameSize (sameSize_putAt _ _)
    · exact complete

theorem Complete.actAll {handler : Handler} (complete : handler.Complete)
    (actions : List Action) : (handler.actAll actions).Complete := by
  induction actions generalizing handler with
  | nil => exact complete
  | cons action actions ih =>
    cases action with
    | setOptions tokens => exact ih (complete.setOptions tokens)
    | set field value => exact ih (complete.set field value)

/-- The option at a place of the handler is given the value that is read for it; where the
constraint turns that down, the option keeps the value it has. -/
def Overwritten (handler : Handler) (tokens : List String) : Prop :=
  ∀ height place spec, cell? (handler.id.levels.map Level.options) height place = some spec →
    ∃ new, cell? (handler.id.readings tokens) height place = some new ∧
      (spec.Allows new →
        cell? (handler.setOptions tokens).2.rows height place = some new) ∧
      (¬spec.Allows new →
        cell? (handler.setOptions tokens).2.rows height place = cell? handler.rows height place)

theorem Complete.overwritten {handler : Handler} (complete : handler.Complete)
    {tokens leftover : List String}
    (accepted : (handler.setOptions tokens).1.result = .ok leftover) :
    handler.Overwritten tokens := by
  intro height place spec option
  have whole := fresh_complete handler.id
  have same : handler.id = (fresh handler.id).id := rfl
  rw [attempt_setOptions same complete whole tokens] at accepted
  have filled : Filled handler.id.levels (handler.id.readings tokens) :=
    filled_levelReadings readObject whole accepted
  obtain ⟨new, read⟩ := filled.exists_cell option
  obtain ⟨old, held⟩ := Filled.exists_cell complete option
  have cell := cell?_assignedRows handler.rows option read
  rw [← rows_setOptions complete, held, Option.map_some] at cell
  refine ⟨new, read, fun allowed => ?_, fun refused => ?_⟩
  · rw [cell, OptionSpec.assigned_of_allows allowed]
  · rw [cell, OptionSpec.assigned_of_not_allows refused, held]

theorem setOptions_setOptions {handler : Handler} (complete : handler.Complete)
    (tokens : List String) :
    (handler.setOptions tokens).2.setOptions tokens = handler.setOptions tokens := by
  have again := complete.setOptions tokens
  have attempt := attempt_setOptions (id_setOptions handler tokens) again complete tokens
  have rows : ((handler.setOptions tokens).2.setOptions tokens).2.rows =
      (handler.setOptions tokens).2.rows := by
    rw [rows_setOptions again, rows_setOptions complete, id_setOptions,
      assignedRows_assignedRows]
  exact Prod.ext attempt (congrArg (Handler.mk handler.id) rows)

/-- Whatever two handlers of a class held before, the same tokens have the same outcome for both. If
they are accepted, every option holds the value that is read for it, or where that was turned down
what it held before. Taking the tokens again comes to the same and changes nothing. -/
theorem setOptions_overwrites {first second : Handler} (same : first.id = second.id)
    (one : first.Complete) (other : second.Complete) (tokens : List String) :
    (first.setOptions tokens).1 = (second.setOptions tokens).1 ∧
      (∀ leftover, (first.setOptions tokens).1.result = .ok leftover →
        first.Overwritten tokens ∧ second.Overwritten tokens) ∧
      (first.setOptions tokens).2.setOptions tokens = first.setOptions tokens := by
  have outcome := attempt_setOptions same one other tokens
  refine ⟨outcome, fun leftover accepted => ?_, setOptions_setOptions one tokens⟩
  exact ⟨one.overwritten accepted, other.overwritten (outcome ▸ accepted)⟩

/-- A learner with a seed that is no text, which its constraint lets pass. -/
def numberSeeded : Handler := (fresh .childLearner).actAll [.set "child_seed" (.int 7)]

-- Both keep their seeds, since the empty one is turned down.
theorem setOptions_overwrites_numberSeeded :
    (fresh .childLearner).id = numberSeeded.id ∧
      (fresh .childLearner).Complete ∧ numberSeeded.Complete ∧
      ((fresh .childLearner).setOptions ["-seed", "", "-rate", "2"]).1.result = .ok [] ∧
      ((fresh .childLearner).setOptions ["-seed", "", "-rate", "2"]).1 =
        (numberSeeded.setOptions ["-seed", "", "-rate", "2"]).1 ∧
      ((fresh .childLearner).Overwritten ["-seed", "", "-rate", "2"] ∧
        numberSeeded.Overwritten ["-seed", "", "-rate", "2"]) ∧
      ((fresh .childLearner).setOptions ["-seed", "", "-rate", "2"]).2.setOptions
          ["-seed", "", "-rate", "2"] =
        (fresh .childLearner).setOptions ["-seed", "", "-rate", "2"] := by
  have same : (fresh .childLearner).id = numberSeeded.id := by with_unfolding_all rfl
  have whole := fresh_complete .childLearner
  have other : numberSeeded.Complete := whole.actAll _
  have accepted : ((fresh .childLearner).setOptions ["-seed", "", "-rate", "2"]).1.result =
      .ok [] := by
    with_unfolding_all rfl
  obtain ⟨outcome, overwritten, again⟩ :=
    setOptions_overwrites same whole other ["-seed", "", "-rate", "2"]
  exact ⟨same, whole, other, accepted, outcome, overwritten [] accepted, again⟩

end Handler

end OptionProtocol
