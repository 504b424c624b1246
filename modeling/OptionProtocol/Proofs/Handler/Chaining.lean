import OptionProtocol.Handler.Instance
import OptionProtocol.Proofs.Handler.Sourcing
import OptionProtocol.Proofs.TokenSequence.Packing

/-! Levels that hand on what they left, and levels that share one token sequence. Both read the same
until an option of a level above is announced right before a token that a level below has taken:
where the sequence is shared it has no value then, and where the tokens are handed on it takes the
next one left. -/

set_option autoImplicit false

namespace OptionProtocol

open TokenSequence

/-- Assigning the options of all levels from the same token sequence. -/
structure SharedRun where
  rows : List (List Value)
  tokens : TokenSequence
  rejected : List Rejection := []
  fault : Option OptionFault := none

/-- Assign the options of each level from one sequence that all levels share. -/
def assignShared (reader : ObjectReader) :
    List Level → List (List Value) → TokenSequence → SharedRun
  | level :: levels, row :: rows, s =>
      let run := assignRow reader level.options row s
      match run.fault with
      | some fault =>
          { rows := run.row :: rows, tokens := run.tokens, rejected := run.rejected,
            fault := some fault }
      | none =>
          let above := assignShared reader levels rows run.tokens
          { above with
            rows := run.row :: above.rows
            rejected := run.rejected ++ above.rejected }
  | _, rows, s => { rows, tokens := s }

/-- What the run comes to: the rows, the tokens left over or the fault, and what was turned down. -/
def SharedRun.outcome (run : SharedRun) : LevelsRun where
  rows := run.rows
  leftover :=
    match run.fault with
    | some fault => .error fault
    | none => .ok run.tokens.remaining
  rejected := run.rejected

section

variable {start : List Token} {s packed : TokenSequence} (reader : ObjectReader)

/-- An option reads the same from the whole and from the packed tokens, or there is a gap. -/
theorem OptionSpec.parse_packed (spec : OptionSpec)
    (related : Packed start s.tokens packed.tokens) :
    ((spec.parse reader s).1 = (spec.parse reader packed).1 ∧
      Packed start (spec.parse reader s).2.tokens (spec.parse reader packed).2.tokens) ∨
    (spec.parse reader s).1.result = .error (noValue spec.flag) ∧ spec.kind ≠ .flag ∧
      Gap spec.flag start := by
  unfold OptionSpec.parse
  split
  · unfold TokenSequence.parseArray
    by_cases bare : spec.kind = .flag
    · simp only [bare, if_true]
      exact .inl ⟨trivial, related⟩
    · simp only [bare, if_false]
      obtain ⟨same, left⟩ | ⟨none, gap⟩ := related.collect
        (fun raw => decode reader raw spec.kind (some spec.flag) spec.base) spec.flag
      · exact .inl ⟨by rw [same], left⟩
      · exact .inr ⟨by rw [none], bare, gap⟩
  · unfold TokenSequence.parse
    by_cases bare : spec.kind = .flag
    · simp only [bare, if_true, takeFlag]
      obtain ⟨noWhole, noPacked⟩ | ⟨_, _, inWhole, inPacked, after⟩ :=
        related.takeFirst? spec.flag
      · rw [noWhole, noPacked]
        exact .inl ⟨rfl, related⟩
      · rw [inWhole, inPacked]
        exact .inl ⟨rfl, after⟩
    · simp only [bare, if_false, takeValue]
      obtain ⟨inWhole, inPacked⟩ | ⟨inWhole, inPacked | gap⟩ |
        ⟨_, _, _, inWhole, inPacked, after⟩ := related.takePair_cases spec.flag
      · rw [inWhole, inPacked]
        exact .inl ⟨rfl, related⟩
      · rw [inWhole, inPacked]
        exact .inl ⟨rfl, related⟩
      · rw [inWhole]
        exact .inr ⟨rfl, bare, gap⟩
      · rw [inWhole, inPacked]
        exact .inl ⟨rfl, after⟩

/-- Two runs of a row came to the same, on tokens of which some are whole and some are packed. -/
structure RowRun.SameAs (start : List Token) (whole packed : RowRun) : Prop where
  row : whole.row = packed.row
  rejected : whole.rejected = packed.rejected
  fault : whole.fault = packed.fault
  tokens : Packed start whole.tokens.tokens packed.tokens.tokens

theorem RowRun.SameAs.after {whole packed : RowRun} (same : whole.SameAs start packed)
    (value : Value) (earlier : List Rejection) :
    (whole.after value earlier).SameAs start (packed.after value earlier) where
  row := congrArg (value :: ·) same.row
  rejected := congrArg (earlier ++ ·) same.rejected
  fault := same.fault
  tokens := same.tokens

/-- A row is assigned the same, or one of its options has no value because of a gap. -/
theorem assignRow_packed (specs : List OptionSpec) (row : List Value)
    (related : Packed start s.tokens packed.tokens) :
    (assignRow reader specs row s).SameAs start (assignRow reader specs row packed) ∨
    ∃ spec ∈ specs, spec.kind ≠ .flag ∧ Gap spec.flag start ∧
      (assignRow reader specs row s).fault = some (noValue spec.flag) := by
  induction specs generalizing row s packed with
  | nil => exact .inl ⟨rfl, rfl, rfl, related⟩
  | cons spec specs ih =>
    cases row with
    | nil => exact .inl ⟨rfl, rfl, rfl, related⟩
    | cons old row =>
      obtain ⟨same, left⟩ | ⟨none, valued, gap⟩ := spec.parse_packed reader related
      · simp only [assignRow, same]
        cases (spec.parse reader packed).1.result with
        | error fault => exact .inl ⟨rfl, rfl, rfl, left⟩
        | ok new =>
          cases accepts : spec.accepts new with
          | error fault =>
            simp only [accepts]
            exact .inl ⟨rfl, rfl, rfl, left⟩
          | ok accepted =>
            obtain same | ⟨other, member, valued, gap, fault⟩ := ih row left
            · simp only [accepts]
              cases accepted with
              | true => exact .inl (same.after new _)
              | false => exact .inl (same.after old _)
            · refine .inr ⟨other, List.mem_cons_of_mem spec member, valued, gap, ?_⟩
              simp only [accepts]
              cases accepted <;> exact fault
      · refine .inr ⟨spec, List.mem_cons_self, valued, gap, ?_⟩
        simp only [assignRow, none]

end

/-- Some level was stopped because the value of one of its options stood behind a token that the
levels below had taken. -/
def Crossed (reader : ObjectReader) (levels : List Level) (rows : List (List Value))
    (s : TokenSequence) : Prop :=
  ∃ below level above spec, levels = below ++ level :: above ∧ spec ∈ level.options ∧
    spec.kind ≠ .flag ∧ Gap spec.flag (assignShared reader below rows s).tokens.tokens ∧
    (assignShared reader levels rows s).fault = some (noValue spec.flag)

/-- Handing on what each level leaves comes to the same as sharing the tokens, or the levels
crossed. -/
theorem assignLevels_shared (reader : ObjectReader) (levels : List Level)
    (rows : List (List Value)) (s : TokenSequence) :
    assignLevels reader levels rows s.remaining = (assignShared reader levels rows s).outcome ∨
      Crossed reader levels rows s := by
  induction levels generalizing rows s with
  | nil => exact .inl rfl
  | cons level levels ih =>
    cases rows with
    | nil => exact .inl rfl
    | cons row rows =>
      have packed : Packed s.tokens s.tokens (ofTexts s.remaining).tokens :=
        .of_remaining s.tokens
      obtain same | ⟨spec, member, valued, gap, fault⟩ :=
        assignRow_packed reader level.options row packed
      · have fault := same.fault
        cases stopped : (assignRow reader level.options row s).fault with
        | some _ =>
          rw [stopped] at fault
          left
          simp only [assignLevels, assignShared, stopped, ← fault, SharedRun.outcome, same.row,
            same.rejected]
        | none =>
          rw [stopped] at fault
          -- Both leave the same texts, so what holds of the whole tokens left is about those
          -- that are handed on.
          have handed : (assignRow reader level.options row s).tokens.remaining =
              (assignRow reader level.options row (ofTexts s.remaining)).tokens.remaining :=
            same.tokens.remaining_eq
          obtain above | ⟨below, other, above, spec, rfl, member, valued, gap, noneLeft⟩ :=
            ih rows (assignRow reader level.options row s).tokens
          · left
            rw [handed] at above
            simp only [assignLevels, assignShared, stopped, ← fault, above, SharedRun.outcome,
              same.row, same.rejected]
          · right
            refine ⟨level :: below, other, above, spec, rfl, member, valued, ?_, ?_⟩
            · simpa only [assignShared, stopped] using gap
            · simpa only [assignShared, stopped, List.cons_append] using noneLeft
      · right
        refine ⟨[], level, levels, spec, rfl, member, valued, gap, ?_⟩
        simp only [assignShared, fault]

/-- What each level is handed of the tokens. -/
def handedOn (reader : ObjectReader) :
    List Level → List (List Value) → List String → List (List String)
  | level :: levels, row :: rows, tokens =>
      tokens :: handedOn reader levels rows
        (assignRow reader level.options row (ofTexts tokens)).tokens.remaining
  | _, _, _ => []

/-- Every value of the rows is what it was before, or came from behind its own announcement in the
texts for its level. -/
def LevelsSourced (reader : ObjectReader) :
    List Level → List (List String) → List (List Value) → List (List Value) → Prop
  | level :: levels, texts :: handed, row :: rows, after :: afters =>
      RowSourced reader texts level.options row after ∧
        LevelsSourced reader levels handed rows afters
  | _, _, rows, afters => afters = rows

theorem LevelsSourced.refl (reader : ObjectReader) (levels : List Level)
    (handed : List (List String)) (rows : List (List Value)) :
    LevelsSourced reader levels handed rows rows := by
  induction levels generalizing handed rows with
  | nil => cases handed <;> cases rows <;> rfl
  | cons level levels ih =>
    cases handed with
    | nil => cases rows <;> rfl
    | cons texts handed =>
      cases rows with
      | nil => rfl
      | cons row rows => exact ⟨.refl _ _ _ _, ih handed rows⟩

theorem assignShared_sourced (reader : ObjectReader) (levels : List Level)
    (rows : List (List Value)) (s : TokenSequence) :
    LevelsSourced reader levels (levels.map fun _ => s.texts) rows
      (assignShared reader levels rows s).rows := by
  induction levels generalizing rows s with
  | nil => exact .refl _ _ _ _
  | cons level levels ih =>
    cases rows with
    | nil => exact .refl _ _ _ _
    | cons row rows =>
      obtain ⟨texts, sourced⟩ := assignRow_sourced reader level.options row s
      have above := ih rows (assignRow reader level.options row s).tokens
      rw [texts] at above
      cases stopped : (assignRow reader level.options row s).fault with
      | some fault =>
        simp only [assignShared, stopped]
        exact ⟨sourced, .refl _ _ _ _⟩
      | none =>
        simp only [assignShared, stopped]
        exact ⟨sourced, above⟩

theorem assignLevels_sourced (reader : ObjectReader) (levels : List Level)
    (rows : List (List Value)) (tokens : List String) :
    LevelsSourced reader levels (handedOn reader levels rows tokens) rows
      (assignLevels reader levels rows tokens).rows := by
  induction levels generalizing rows tokens with
  | nil => exact .refl _ _ _ _
  | cons level levels ih =>
    cases rows with
    | nil => exact .refl _ _ _ _
    | cons row rows =>
      obtain ⟨_, sourced⟩ := assignRow_sourced reader level.options row (ofTexts tokens)
      rw [texts_ofTexts] at sourced
      cases stopped : (assignRow reader level.options row (ofTexts tokens)).fault with
      | some fault =>
        simp only [assignLevels, stopped]
        exact ⟨sourced, .refl _ _ _ _⟩
      | none =>
        simp only [assignLevels, stopped]
        exact ⟨sourced, ih rows _⟩

namespace Handler

/-- Take options with one token sequence for all levels of the class. -/
def setOptionsShared (handler : Handler) (tokens : List String) :
    Attempt (List String) × Handler :=
  let run := (assignShared readObject handler.id.levels handler.rows (ofTexts tokens)).outcome
  ({ result := run.leftover, rejected := run.rejected }, { handler with rows := run.rows })

/-- Every value assigned stood directly behind its announcement in the tokens that its level was
handed. Handing on what each level leaves comes to the same as sharing the tokens, where they stood
so in the tokens that were given, unless sharing them stops where the next token of an announcement
was taken by a level below. -/
theorem setOptions_shared (handler : Handler) (tokens : List String) :
    LevelsSourced readObject handler.id.levels
        (handedOn readObject handler.id.levels handler.rows tokens) handler.rows
        (handler.setOptions tokens).2.rows ∧
      ((handler.setOptions tokens = handler.setOptionsShared tokens ∧
        LevelsSourced readObject handler.id.levels (handler.id.levels.map fun _ => tokens)
          handler.rows (handler.setOptions tokens).2.rows) ∨
      Crossed readObject handler.id.levels handler.rows (ofTexts tokens)) := by
  refine ⟨assignLevels_sourced readObject handler.id.levels handler.rows tokens, ?_⟩
  have all : (ofTexts tokens).remaining = tokens := remaining_unmarked tokens
  have sourced :=
    assignShared_sourced readObject handler.id.levels handler.rows (ofTexts tokens)
  obtain same | crossed :=
    assignLevels_shared readObject handler.id.levels handler.rows (ofTexts tokens)
  · left
    rw [all] at same
    rw [texts_ofTexts] at sourced
    have equal : handler.setOptions tokens = handler.setOptionsShared tokens := by
      simp only [setOptions, setOptionsShared, same]
    exact ⟨equal, equal ▸ sourced⟩
  · exact .inr crossed

-- The child takes `-debug` from between an announcement of its parent and what follows.
theorem setOptions_ne_shared_debug :
    ((fresh .childLearner).setOptions ["-iterations", "-debug", "5"]).1.result = .ok [] ∧
      ((fresh .childLearner).setOptions ["-iterations", "-debug", "5"]).2.get "iterations" =
        .ok (.int 5) ∧
      ¬[announce "iterations", "5"] <:+: ["-iterations", "-debug", "5"] ∧
      ((fresh .childLearner).setOptionsShared ["-iterations", "-debug", "5"]).1.result =
        .error (noValue "iterations") := by
  refine ⟨?_, ?_, by decide, ?_⟩
  · with_unfolding_all rfl
  · with_unfolding_all rfl
  · with_unfolding_all rfl

end Handler

end OptionProtocol
