import OptionProtocol.Handler.Instance
import OptionProtocol.Proofs.FilePath
import OptionProtocol.Proofs.Handler.Naming
import OptionProtocol.Proofs.Handler.Written

/-! Option handlers as trees: the handlers that options hold, properties of a handler and of
all those inside, and what it takes for a tree to be written without ambiguity. -/

set_option autoImplicit false

namespace OptionProtocol

/-- A value of a kind. An integer has few enough digits to be written, and an object derives
from the base that is asked for. -/
inductive Value.OfKind (base : Option ClassId) : Kind → Value → Prop where
  | integer {n : Int} (writable : Number.isWritable n = true) : OfKind base .integer (.int n)
  | long {n : Int} (writable : Number.isWritable n = true) : OfKind base .long (.int n)
  | float (x : Binary64) : OfKind base .float (.float x)
  | double (x : Binary64) : OfKind base .double (.float x)
  | text (content : String) : OfKind base .text (.text content)
  | path {path : FilePath} (proper : path.IsProper) : OfKind base .path (.path path)
  | object {id : ClassId} (rows : List (List Value))
      (derives : ∀ required ∈ base, id.derivesFrom required = true) :
      OfKind base .object (.object id rows)

/-- The property holds of the handlers among the parts of the value. -/
def Value.Inside (property : Handler → Prop) (value : Value) : Prop :=
  ∀ handler : Handler, handler.toValue ∈ value.parts → property handler

theorem Value.Inside.here (handler : Handler) {property : Handler → Prop}
    (inside : handler.toValue.Inside property) : property handler :=
  inside handler (by simp [parts, Handler.toValue])

/-- The numbers among the parts of the value are read back from their shortest texts. -/
def Value.FloatsReadBack (value : Value) : Prop :=
  ∀ x, .float x ∈ value.parts → Number.readFloat? x.text = some x

namespace Value.OfKind

variable {base : Option ClassId} {kind : Kind} {value : Value}

theorem parts_eq (ofKind : value.OfKind base kind) : value.parts = [value] := by
  cases ofKind <;> rfl

theorem ne_flag (ofKind : value.OfKind base kind) : kind ≠ .flag := by
  cases ofKind <;> simp

theorem eq_object {id : ClassId} {rows : List (List Value)}
    (ofKind : Value.OfKind base kind (.object id rows)) : kind = .object := by
  cases ofKind
  rfl

theorem eq_path {path : FilePath} (ofKind : Value.OfKind base kind (.path path)) :
    kind = .path := by
  cases ofKind
  rfl

-- A value of a kind is its own only part, so what holds inside a sequence holds inside the items.
theorem inside {property : Handler → Prop} {whole : Value} (ofKind : value.OfKind base kind)
    (part : value ∈ whole.parts) (inside : whole.Inside property) : value.Inside property := by
  intro handler held
  rw [ofKind.parts_eq, List.mem_singleton] at held
  exact inside handler (held ▸ part)

theorem floatsReadBack {whole : Value} (ofKind : value.OfKind base kind)
    (part : value ∈ whole.parts) (floats : whole.FloatsReadBack) : value.FloatsReadBack := by
  intro x held
  rw [ofKind.parts_eq, List.mem_singleton] at held
  exact floats x (held ▸ part)

end Value.OfKind

namespace OptionSpec

/-- A value of the kind that the option declares. The default stands in for an empty list, so
a list is only empty where the default is. -/
inductive Fits (spec : OptionSpec) : Value → Prop where
  | single {value : Value} (single : spec.isArray = false)
      (kind : value.OfKind spec.base spec.kind) : Fits spec value
  | flag (single : spec.isArray = false) (flag : spec.kind = .flag) (isSet : Bool) :
      Fits spec (.bool isSet)
  | array {value : Value} {items : List Value} (array : spec.isArray = true)
      (valued : spec.kind ≠ .flag) (sequence : value = .list items ∨ value = .tuple items)
      (kinds : ∀ item ∈ items, item.OfKind spec.base spec.kind)
      (traced : items = [] → spec.default.items = .ok []) : Fits spec value

end OptionSpec

/-- All values of a row fit their options and pass the constraints. -/
abbrev RowFits (specs : List OptionSpec) (row : List Value) : Prop :=
  List.Forall₂ (fun spec value => spec.Fits value ∧ spec.accepts value = .ok true) specs row

abbrev LevelsFit (levels : List Level) (rows : List (List Value)) : Prop :=
  List.Forall₂ (fun level row => RowFits level.options row) levels rows

/-- No level finds an announcement of its own in the value texts of later options or in the
tokens of the levels above. -/
def LevelsApart : List Level → List (List Value) → Prop
  | level :: levels, row :: rows =>
      (∀ above, Value.levelTokens levels rows = .ok above → Apart level.options row above) ∧
        LevelsApart levels rows
  | _, _ => True

namespace Handler

/-- An option of the handler holds the other one, alone or among other items. -/
def Holds (handler inner : Handler) : Prop :=
  ∃ row ∈ handler.rows, ∃ value ∈ row, inner.toValue ∈ value.parts

/-- The property holds of a handler and of all handlers inside. -/
inductive Throughout (property : Handler → Prop) : Handler → Prop where
  | node {handler : Handler} (here : property handler)
      (inside : ∀ inner, handler.Holds inner → Throughout property inner) :
      Throughout property handler

/-- All values fit their options and pass the constraints. -/
structure Valid (handler : Handler) : Prop where
  concrete : handler.id.IsConcrete
  fits : LevelsFit handler.id.levels handler.rows

/-- The numbers of the handler itself are read back from their shortest texts. -/
def FloatsReadBack (handler : Handler) : Prop :=
  ∀ row ∈ handler.rows, ∀ value ∈ row, ∀ x, .float x ∈ value.parts →
    Number.readFloat? x.text = some x

/-- Reading the own tokens of the handler takes no value for the announcement of an option. -/
def Unambiguous (handler : Handler) : Prop := LevelsApart handler.id.levels handler.rows

variable {handler inner : Handler} {property other : Handler → Prop}

theorem toValue_injective : Function.Injective toValue := by
  rintro ⟨id, rows⟩ ⟨id', rows'⟩ same
  cases same
  rfl

theorem commandLine_eq (handler : Handler) :
    handler.commandLine = handler.getOptions.map fun tokens =>
      CommandLine.join (handler.id.name :: tokens) := by
  rw [commandLine, toValue, Value.commandLine]
  rfl

theorem commandLine_eq_ok {line : String} :
    handler.commandLine = .ok line ↔ ∃ options, handler.getOptions = .ok options ∧
      CommandLine.join (handler.id.name :: options) = line := by
  rw [commandLine_eq, map_eq_ok]

theorem forall_holds_iff : (∀ inner, handler.Holds inner → property inner) ↔
    ∀ row ∈ handler.rows, ∀ value ∈ row, value.Inside property := by
  constructor
  · intro all row member value inside inner part
    exact all inner ⟨row, member, value, inside, part⟩
  · rintro all inner ⟨row, member, value, inside, part⟩
    exact all row member value inside inner part

theorem Throughout.here (throughout : handler.Throughout property) : property handler := by
  cases throughout with
  | node here _ => exact here

theorem Throughout.inside (throughout : handler.Throughout property) (holds : handler.Holds inner) :
    inner.Throughout property := by
  cases throughout with
  | node _ inside => exact inside inner holds

theorem Throughout.leaf (here : property handler)
    (none : ∀ row ∈ handler.rows, ∀ value ∈ row, ∀ inner : Handler, inner.toValue ∉ value.parts) :
    handler.Throughout property := by
  refine .node here ?_
  rintro inner ⟨row, member, value, inside, part⟩
  exact absurd part (none row member value inside inner)

theorem Throughout.mono (throughout : handler.Throughout property)
    (weaker : ∀ handler, property handler → other handler) : handler.Throughout other := by
  induction throughout with
  | node here _ ih => exact .node (weaker _ here) ih

theorem Throughout.and (first : handler.Throughout property) (second : handler.Throughout other) :
    handler.Throughout fun handler => property handler ∧ other handler := by
  induction first with
  | node here _ ih =>
    exact .node ⟨here, second.here⟩ fun inner holds => ih inner holds (second.inside holds)

end Handler

end OptionProtocol
