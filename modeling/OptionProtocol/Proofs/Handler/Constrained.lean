import Mathlib.Data.List.Forall2
import OptionProtocol.Proofs.Handler.Defaults

/-! Constraints hold at all times. Taking options comes down to assigning the values that were read
one after the other, and an assignment counts only where the constraint is true of the value. So
whatever is read, a row whose constraints hold goes on to one whose constraints hold. -/

set_option autoImplicit false

namespace OptionProtocol

open TokenSequence

namespace OptionSpec

/-- The constraint of the option, if it has one, is true of the value. -/
def Allows (spec : OptionSpec) (value : Value) : Prop :=
  ∀ constraint ∈ spec.constraint, constraint.holds value = .ok true

variable {spec : OptionSpec} {old new : Value}

theorem allows_iff : spec.Allows new ↔ spec.accepts new = .ok true := by
  unfold Allows accepts
  cases spec.constraint <;> simp

/-- The value of an option after `new` was assigned to it. -/
def assigned (spec : OptionSpec) (old new : Value) : Value :=
  match spec.accepts new with
  | .ok true => new
  | _ => old

theorem assigned_of_allows (allowed : spec.Allows new) : spec.assigned old new = new := by
  rw [assigned, allows_iff.mp allowed]

theorem assigned_of_not_allows (refused : ¬spec.Allows new) : spec.assigned old new = old := by
  rw [allows_iff] at refused
  unfold assigned
  split
  · contradiction
  · rfl

theorem allows_assigned (allowed : spec.Allows old) (new : Value) :
    spec.Allows (spec.assigned old new) := by
  by_cases accepted : spec.Allows new
  · rwa [assigned_of_allows accepted]
  · rwa [assigned_of_not_allows accepted]

-- A flag is the only option whose default need not be settled, and it has no constraint.
theorem Regular.allows_default (regular : spec.Regular) : spec.Allows spec.default := by
  rw [allows_iff]
  by_cases flag : spec.kind = .flag
  · simp [accepts, (regular.flag flag).2]
  · exact (regular.default flag).accepted

end OptionSpec

/-- A row after some values were assigned to its options in turn, as far as they go. -/
def assignedRow : List OptionSpec → List Value → List Value → List Value
  | spec :: specs, new :: news, old :: row => spec.assigned old new :: assignedRow specs news row
  | _, _, row => row

def assignedRows : List Level → List (List Value) → List (List Value) → List (List Value)
  | level :: levels, news :: more, row :: rows =>
      assignedRow level.options news row :: assignedRows levels more rows
  | _, _, rows => rows

/-- The constraints of a row hold. -/
def RowAllowed (specs : List OptionSpec) (row : List Value) : Prop :=
  List.Forall₂ OptionSpec.Allows specs row

def LevelsAllowed (levels : List Level) (rows : List (List Value)) : Prop :=
  List.Forall₂ (fun level row => RowAllowed level.options row) levels rows

theorem RowAllowed.assigned {specs : List OptionSpec} {row : List Value}
    (allowed : RowAllowed specs row) (news : List Value) :
    RowAllowed specs (assignedRow specs news row) := by
  induction allowed generalizing news with
  | nil => exact .nil
  | cons here rest ih =>
    cases news with
    | nil => exact .cons here rest
    | cons new news => exact .cons (OptionSpec.allows_assigned here new) (ih news)

theorem LevelsAllowed.assigned {levels : List Level} {rows : List (List Value)}
    (allowed : LevelsAllowed levels rows) (more : List (List Value)) :
    LevelsAllowed levels (assignedRows levels more rows) := by
  induction allowed generalizing more with
  | nil => exact .nil
  | cons here rest ih =>
    cases more with
    | nil => exact .cons here rest
    | cons news more => exact .cons (here.assigned news) (ih more)

/-- What stands at a place of one of the rows. -/
def cell? {α : Type} (rows : List (List α)) (height place : Nat) : Option α :=
  rows[height]?.bind (·[place]?)

-- Where a value was read for an option, the assignment decides; the other options are not touched.
theorem getElem?_assignedRow {specs : List OptionSpec} {news : List Value} {place : Nat}
    {spec : OptionSpec} {new : Value} (row : List Value) (option : specs[place]? = some spec)
    (read : news[place]? = some new) :
    (assignedRow specs news row)[place]? = row[place]?.map fun old => spec.assigned old new := by
  induction specs generalizing news row place with
  | nil => simp at option
  | cons first specs ih =>
    cases row with
    | nil => cases news <;> rfl
    | cons old row =>
      cases news with
      | nil => simp at read
      | cons _ news =>
        cases place with
        | zero =>
          obtain rfl := Option.some.inj option
          obtain rfl := Option.some.inj read
          rfl
        | succ place => exact ih row option read

theorem cell?_assignedRows {levels : List Level} {more : List (List Value)} {height place : Nat}
    {spec : OptionSpec} {new : Value} (rows : List (List Value))
    (option : cell? (levels.map Level.options) height place = some spec)
    (read : cell? more height place = some new) :
    cell? (assignedRows levels more rows) height place =
      (cell? rows height place).map fun old => spec.assigned old new := by
  induction levels generalizing more rows height with
  | nil => simp [cell?] at option
  | cons level levels ih =>
    cases rows with
    | nil => cases more <;> rfl
    | cons row rows =>
      cases more with
      | nil => simp [cell?] at read
      | cons news more =>
        cases height with
        | zero => exact getElem?_assignedRow row option read
        | succ height => exact ih rows option read

section

variable (reader : ObjectReader)

/-- The values that are read for the options of a row in turn. The last one may be a value that its
constraint has no answer for. -/
def rowReadings : List OptionSpec → TokenSequence → List Value
  | spec :: specs, s =>
      match (spec.parse reader s).1.result with
      | .error _ => []
      | .ok new =>
          match spec.accepts new with
          | .error _ => [new]
          | .ok _ => new :: rowReadings specs (spec.parse reader s).2
  | [], _ => []

/-- The values that are read for the options of the levels, as far as these are assigned. -/
def levelReadings : List Level → List (List Value) → List String → List (List Value)
  | level :: levels, row :: rows, tokens =>
      let run := assignRow reader level.options row (.ofTexts tokens)
      rowReadings reader level.options (.ofTexts tokens) ::
        match run.fault with
        | some _ => []
        | none => levelReadings levels rows run.tokens.remaining
  | _, _, _ => []

theorem assignRow_row (specs : List OptionSpec) (row : List Value) (s : TokenSequence) :
    (assignRow reader specs row s).row = assignedRow specs (rowReadings reader specs s) row := by
  induction specs generalizing row s with
  | nil => rfl
  | cons spec specs ih =>
    cases row with
    | nil => cases rowReadings reader (spec :: specs) s <;> rfl
    | cons old row =>
      obtain ⟨_, stops, run⟩ | ⟨new, kept, _, read, keeps, run⟩ :=
        assignRow_cons_cases reader spec specs old row s
      · rw [run]
        simp only [rowReadings]
        generalize (spec.parse reader s).1.result = result at stops ⊢
        cases stops with
        | unread => rfl
        | unsettled accepts => simp [accepts, assignedRow, OptionSpec.assigned]
      · have rest := ih row (spec.parse reader s).2
        rw [run]
        cases keeps with
        | new accepts =>
          simp [rowReadings, read, accepts, assignedRow, OptionSpec.assigned, RowRun.after, rest]
        | old accepts =>
          simp [rowReadings, read, accepts, assignedRow, OptionSpec.assigned, RowRun.after, rest]

theorem assignLevels_rows (levels : List Level) (rows : List (List Value))
    (tokens : List String) :
    (assignLevels reader levels rows tokens).rows =
      assignedRows levels (levelReadings reader levels rows tokens) rows := by
  induction levels generalizing rows tokens with
  | nil => rfl
  | cons level levels ih =>
    cases rows with
    | nil => rfl
    | cons row rows =>
      have first := assignRow_row reader level.options row (.ofTexts tokens)
      cases stopped : (assignRow reader level.options row (.ofTexts tokens)).fault with
      | some fault =>
        simp only [assignLevels, levelReadings, stopped, assignedRows, first]
      | none =>
        simp only [assignLevels, levelReadings, stopped, assignedRows, first, ih]

end

namespace Handler

section

variable {field : String} {new : Value} {spec : OptionSpec}

theorem rowAllowed_putIn {specs : List OptionSpec} {row : List Value}
    (allowed : RowAllowed specs row)
    (found : specs.find? (fun spec => spec.field == field) = some spec)
    (accepted : spec.Allows new) : RowAllowed specs (putIn field new specs row) := by
  induction allowed with
  | nil => exact .nil
  | @cons first old specs row here rest ih =>
    unfold putIn
    by_cases named : first.field = field
    · simp only [List.find?_cons, named, beq_self_eq_true] at found
      cases found
      simp only [named, if_true]
      exact .cons accepted rest
    · simp only [List.find?_cons, beq_eq_false_iff_ne.mpr named] at found
      simp only [named, if_false]
      exact .cons here (ih found)

-- The value goes to the first level that has the field, which is the level of the accessor only as
-- long as no level without accessors is below one with them.
theorem levelsAllowed_putAt {levels : List Level} {rows : List (List Value)}
    (allowed : LevelsAllowed levels rows)
    (ordered : levels.Pairwise fun below above => above.hasAccessors → below.hasAccessors)
    (found : levels.findSome? (fun level =>
      if level.hasAccessors then level.options.find? fun spec => spec.field == field
      else none) = some spec)
    (accepted : spec.Allows new) : LevelsAllowed levels (putAt field new levels rows) := by
  induction allowed with
  | nil => exact .nil
  | @cons level row levels rows here rest ih =>
    obtain ⟨below, ordered⟩ := List.pairwise_cons.mp ordered
    have accessible : level.hasAccessors = true := by
      obtain ⟨other, member, one⟩ := List.exists_of_findSome?_eq_some found
      have lets : other.hasAccessors = true := (Option.ite_none_right_eq_some.mp one).1
      rcases List.mem_cons.mp member with rfl | member
      · exact lets
      · exact below other member lets
    rw [List.findSome?_cons, if_pos accessible] at found
    unfold putAt
    cases named : level.options.find? fun spec => spec.field == field with
    | some own =>
      rw [named] at found
      cases found
      have inside : (level.options.any fun spec => spec.field == field) = true := by
        have same := List.find?_some named
        exact List.any_eq_true.mpr ⟨spec, List.mem_of_find?_eq_some named, same⟩
      rw [if_pos inside]
      exact .cons (rowAllowed_putIn here named accepted) rest
    | none =>
      rw [named] at found
      have outside : ¬(level.options.any fun spec => spec.field == field) = true := by
        simpa using named
      rw [if_neg outside]
      exact .cons here (ih ordered found)

end

/-- All constraints of the handler hold, also those of the levels above. -/
def Constrained (handler : Handler) : Prop := LevelsAllowed handler.id.levels handler.rows

/-- What can be done to a handler. -/
inductive Action where
  | setOptions (tokens : List String)
  | set (field : String) (value : Value)

/-- The handler after the action, whether or not that came to its end. -/
def act (handler : Handler) : Action → Handler
  | .setOptions tokens => (handler.setOptions tokens).2
  | .set field value => (handler.set field value).2

def actAll (handler : Handler) (actions : List Action) : Handler := actions.foldl act handler

variable {handler : Handler}

theorem fresh_constrained (id : ClassId) : (fresh id).Constrained := by
  change LevelsAllowed id.levels (id.levels.map Level.defaults)
  unfold LevelsAllowed RowAllowed Level.defaults
  rw [List.forall₂_map_right_iff, List.forall₂_same]
  intro level member
  rw [List.forall₂_map_right_iff, List.forall₂_same]
  exact fun spec inside => (id.regular level member spec inside).allows_default

theorem levels_ordered (id : ClassId) :
    id.levels.Pairwise fun below above => above.hasAccessors → below.hasAccessors := by
  cases id <;> decide

theorem Constrained.setOptions (constrained : handler.Constrained) (tokens : List String) :
    (handler.setOptions tokens).2.Constrained := by
  unfold Constrained Handler.setOptions
  simp only [assignLevels_rows]
  exact constrained.assigned _

theorem set_eq_of_not_allows {field : String} {value : Value} {spec : OptionSpec}
    (accessor : handler.accessor? field = some spec) (refused : ¬spec.Allows value) :
    (handler.set field value).2 = handler := by
  rw [OptionSpec.allows_iff] at refused
  simp only [set, accessor]
  split
  · rfl
  · contradiction
  · rfl

theorem Constrained.set (constrained : handler.Constrained) (field : String) (value : Value) :
    (handler.set field value).2.Constrained := by
  cases accessor : handler.accessor? field with
  | none => simpa only [Handler.set, accessor] using constrained
  | some spec =>
    by_cases allowed : spec.Allows value
    · simp only [Handler.set, accessor, OptionSpec.allows_iff.mp allowed]
      exact levelsAllowed_putAt constrained (levels_ordered handler.id) accessor allowed
    · rwa [set_eq_of_not_allows accessor allowed]

theorem Constrained.act (constrained : handler.Constrained) (action : Action) :
    (handler.act action).Constrained := by
  cases action with
  | setOptions tokens => exact constrained.setOptions tokens
  | set field value => exact constrained.set field value

theorem Constrained.actAll (constrained : handler.Constrained) (actions : List Action) :
    (handler.actAll actions).Constrained := by
  induction actions generalizing handler with
  | nil => exact constrained
  | cons action actions ih => exact ih (constrained.act action)

/-- No assignment of the action changes anything where the constraint is not true of the value,
be it false or without an answer. -/
def Guards (handler : Handler) : Action → Prop
  | .setOptions tokens =>
      ∀ height place spec new,
        cell? (handler.id.levels.map Level.options) height place = some spec →
        cell? (levelReadings readObject handler.id.levels handler.rows tokens) height place =
          some new →
        ¬spec.Allows new →
        cell? (handler.setOptions tokens).2.rows height place = cell? handler.rows height place
  | .set field value =>
      ∀ spec, handler.accessor? field = some spec → ¬spec.Allows value →
        (handler.set field value).2 = handler

theorem guards (handler : Handler) (action : Action) : handler.Guards action := by
  cases action with
  | setOptions tokens =>
    intro height place spec new option read refused
    have rows := assignLevels_rows readObject handler.id.levels handler.rows tokens
    simp only [Handler.setOptions, rows, cell?_assignedRows handler.rows option read,
      OptionSpec.assigned_of_not_allows refused, Option.map_id']
  | set field value =>
    intro spec accessor refused
    exact set_eq_of_not_allows accessor refused

-- The empty seed is read, and turned down.
example :
    cell? (levelReadings readObject ClassId.childLearner.levels ClassId.childLearner.defaultRows
        ["-seed", ""]) 0 1 = some (.text "") ∧
      ((fresh .childLearner).setOptions ["-seed", ""]).2.get "child_seed" = .ok (.text "s") := by
  constructor <;> with_unfolding_all rfl

/-- Whatever was done to a new handler, all of its constraints hold, and whatever is done next, an
assignment that a constraint is not true of leaves the option as it is. -/
theorem constrained_and_guards_actAll (id : ClassId) (actions : List Action) :
    ((fresh id).actAll actions).Constrained ∧
      ∀ action, ((fresh id).actAll actions).Guards action :=
  ⟨(fresh_constrained id).actAll actions, guards _⟩

end Handler

end OptionProtocol
