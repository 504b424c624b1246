import OptionProtocol.Proofs.CommandLine
import OptionProtocol.Proofs.Handler.Assigning

/-! The bound on the depth of nested objects makes no difference. Reading a command line only
reads objects from tokens inside it, and those are shorter, so readers that agree on shorter
texts read the same, and one that is deep enough is as good as any deeper one. -/

set_option autoImplicit false

namespace OptionProtocol

open TokenSequence

/-- Two readers read the same objects from the given texts. -/
def AgreeOn (first second : ObjectReader) (texts : List String) : Prop :=
  ∀ text ∈ texts, ∀ base flag, first base flag text = second base flag text

variable {first second : ObjectReader}

theorem AgreeOn.mono {texts fewer : List String} (agree : AgreeOn first second texts)
    (subset : fewer ⊆ texts) : AgreeOn first second fewer :=
  fun text member => agree text (subset member)

theorem AgreeOn.decode {texts : List String} (agree : AgreeOn first second texts)
    {raw : String} (member : raw ∈ texts) (kind : Kind) (flag : Option String)
    (base : Option ClassId) :
    decode first raw kind flag base = decode second raw kind flag base := by
  cases kind with
  | object => exact agree raw member base flag
  | _ => rfl

namespace TokenSequence

theorem collect_congr {decodeItem other : String → Attempt Value} (flag : String)
    {tokens : List Token} (agree : ∀ text ∈ remaining ⟨tokens⟩, decodeItem text = other text) :
    collect decodeItem flag tokens = collect other flag tokens := by
  cases taken : takePair flag tokens with
  | absent =>
    have absent := takePair_eq_absent_iff.mp taken
    rw [collect_absent absent, collect_absent absent]
  | valueless => rw [collect_valueless taken, collect_valueless taken]
  | value text after =>
    obtain ⟨shrunk, inside⟩ := sublist_of_takePair taken
    rw [collect_value taken, collect_value taken, agree text inside,
      collect_congr flag fun text member => agree text (shrunk.subset member)]
termination_by freeCount tokens
decreasing_by have := freeCount_takePair taken; omega

end TokenSequence

theorem AgreeOn.parse {s : TokenSequence} (agree : AgreeOn first second s.remaining)
    (spec : OptionSpec) : spec.parse first s = spec.parse second s := by
  unfold OptionSpec.parse
  split
  · unfold TokenSequence.parseArray
    rw [collect_congr spec.flag fun text member => agree.decode member _ _ _]
  · unfold TokenSequence.parse
    cases taken : s.takeValue spec.flag with
    | value text after =>
      simp only [agree.decode (sublist_of_takePair taken).2]
    | _ => rfl

theorem AgreeOn.assignRow {specs : List OptionSpec} {row : List Value} {s : TokenSequence}
    (agree : AgreeOn first second s.remaining) :
    assignRow first specs row s = assignRow second specs row s := by
  induction specs generalizing row s with
  | nil => rfl
  | cons spec specs ih =>
    cases row with
    | nil => rfl
    | cons old row =>
      -- The readers still agree on what the option leaves for the others.
      have left := agree.mono (spec.remaining_parse first s).subset
      rw [agree.parse spec] at left
      have rest : OptionProtocol.assignRow first specs row (spec.parse second s).2 =
          OptionProtocol.assignRow second specs row (spec.parse second s).2 := ih left
      simp only [OptionProtocol.assignRow, agree.parse spec, rest]

theorem AgreeOn.assignLevels {levels : List Level} {rows : List (List Value)}
    {tokens : List String} (agree : AgreeOn first second tokens) :
    assignLevels first levels rows tokens = assignLevels second levels rows tokens := by
  induction levels generalizing rows tokens with
  | nil => rfl
  | cons level levels ih =>
    cases rows with
    | nil => rfl
    | cons row rows =>
      have agree : AgreeOn first second (ofTexts tokens).remaining := by
        change AgreeOn first second (remaining ⟨unmarked tokens⟩)
        rwa [remaining_unmarked]
      have left := agree.mono (remaining_assignRow first level.options row (ofTexts tokens)).subset
      rw [agree.assignRow] at left
      have above : ∀ rows, OptionProtocol.assignLevels first levels rows _ =
          OptionProtocol.assignLevels second levels rows _ := fun rows => ih left
      simp only [OptionProtocol.assignLevels, agree.assignRow, above]

/-- Readers that agree on shorter texts read the same object. -/
theorem readObjectBy_congr {line : String}
    (agree : ∀ text : String, text.length < line.length →
      ∀ base flag, first base flag text = second base flag text)
    (base : Option ClassId) (flag : Option String) :
    readObjectBy first base flag line = readObjectBy second base flag line := by
  unfold readObjectBy
  split
  · rfl
  · cases read : CommandLine.tokens line with
    | error fault => rfl
    | ok tokens =>
      cases tokens with
      | nil => rfl
      | cons name options =>
        have split := CommandLine.split_of_tokens read
        -- Only tokens behind the class name are read as objects, and those are shorter.
        have agree : AgreeOn first second options := fun text member =>
          agree text (CommandLine.length_lt_of_split split member)
        simp only [configure, agree.assignLevels]

/-- Any depth above the length of the command line will do. -/
theorem readObjectWithin_eq {line : String} {depth deeper : Nat}
    (enough : line.length < depth) (more : line.length < deeper) (base : Option ClassId)
    (flag : Option String) :
    readObjectWithin depth base flag line = readObjectWithin deeper base flag line := by
  induction depth generalizing line deeper base flag with
  | zero => exact absurd enough (Nat.not_lt_zero _)
  | succ depth ih =>
    cases deeper with
    | zero => exact absurd more (Nat.not_lt_zero _)
    | succ deeper =>
      apply readObjectBy_congr
      intro text shorter base flag
      exact ih (by omega) (by omega) base flag

/-- Reading objects reads the objects inside in the same way. -/
theorem readObject_eq (base : Option ClassId) (flag : Option String) (line : String) :
    readObject base flag line = readObjectBy readObject base flag line := by
  change readObjectBy (readObjectWithin line.length) base flag line = _
  apply readObjectBy_congr
  intro text shorter base flag
  exact readObjectWithin_eq shorter (Nat.lt_succ_self _) base flag

namespace Catalogue.Referent

theorem instantiable_eq_ok {referent : Referent} {id : ClassId}
    (instantiable : referent.instantiable = .ok id) :
    referent = .classRef id ∧ id.instantiationFault? = none := by
  cases referent with
  | classRef other =>
    cases fault : other.instantiationFault? with
    | some reason =>
      simp only [Referent.instantiable, fault] at instantiable
      cases instantiable
    | none =>
      simp only [Referent.instantiable, fault, Except.ok.injEq] at instantiable
      subst instantiable
      exact ⟨rfl, fault⟩
  | _ => cases instantiable

end Catalogue.Referent

theorem resolve_of_resolveClass {name : String} {flag : Option String}
    {referent : Catalogue.Referent} (found : resolveClass name flag = .ok referent) :
    Catalogue.resolve name = .ok referent := by
  unfold resolveClass at found
  split at found
  · rename_i resolved
    rw [resolved, Except.ok.inj found]
  all_goals cases found

-- An option handler that was given its options has taken all of them.
theorem configure_ok {reader : ObjectReader} {malformed : Malformation → OptionFault}
    {name : String} {id : ClassId} {options : List String} {value : Value}
    (isHandler : id.isHandler = true)
    (made : (configure reader malformed name id options).result = .ok value) :
    (assignLevels reader id.levels id.defaultRows options).leftover = .ok [] ∧
      value = .object id (assignLevels reader id.levels id.defaultRows options).rows := by
  simp only [configure, isHandler, if_true] at made
  split at made
  · cases made
  · rename_i taken
    exact ⟨taken, (Except.ok.inj made).symm⟩
  · cases made

/-- What is read from a command line is an object of the class that its first token names, made
with the tokens behind. -/
theorem readObject_ok {base : Option ClassId} {flag : Option String} {line : String}
    {value : Value} (read : (readObject base flag line).result = .ok value) :
    ∃ (name : String) (id : ClassId) (tokens : List String),
      CommandLine.split line = .ok (name :: tokens) ∧
      Catalogue.resolve name = .ok (.classRef id) ∧ id.instantiationFault? = none ∧
      (∀ required ∈ base, id.derivesFrom required = true) ∧
      (configure readObject (.malformed flag (some line)) name id tokens).result = .ok value := by
  rw [readObject_eq] at read
  unfold readObjectBy at read
  -- Every check on the way to `configure` has to let the line pass.
  dsimp only at read
  split at read
  · cases read
  · split at read
    · cases read
    · cases read
    · rename_i name tokens found
      split at read
      · cases read
      · rename_i resolved
        split at read
        · cases read
        · rename_i derived
          split at read
          · cases read
          · rename_i id instantiable
            obtain ⟨rfl, possible⟩ := Catalogue.Referent.instantiable_eq_ok instantiable
            refine ⟨name, id, tokens, CommandLine.split_of_tokens found,
              resolve_of_resolveClass resolved, possible, ?_, read⟩
            intro required member
            rw [Option.filter_eq_none_iff] at derived
            simpa [Catalogue.Referent.derivesFrom] using derived required member

end OptionProtocol
