import OptionProtocol.Emission.Python
import OptionProtocol.Proofs.Batch.Accounting
import OptionProtocol.Proofs.Loading

/-! When a batch that keeps going comes to its end: if no source escapes at its turn. -/

set_option autoImplicit false

namespace OptionProtocol.Batch

/-- All failures of the generator have words. -/
def Worded (g : Generator) : Prop :=
  ∀ d failure, g.emit d = .error failure → failure.message? ≠ none

/-- A generator of Python is worded when the module of the codec is named by a text. -/
theorem worded_python {c : Configuration} {module : String} (named : c.codecModule = .text module)
    (style : Python.Style) : Worded (Python.generator c style) := by
  intro d failure failed
  simp only [Python.generator, Python.emit, named, Python.codecImport] at failed
  split at failed
  · cases failed
    simp [Failure.message?]
  · cases failed

variable {g : Generator} {options : BatchOptions} {web : Web} {files : Files} {state : BatchRun}
  {source : String} {sources : List String}

theorem generate_ne_error {d : Definition} (worded : Worded g) (failure : Failure) :
    (g.generate d).result ≠ .error failure := by
  unfold Generator.generate
  split
  · simp
  · rename_i cause failed
    split
    · rename_i silent
      exact absurd silent (worded d cause failed)
    · simp

theorem draft_error_iff (worded : Worded g) :
    (∃ failure, (draft g web files source).result = .error failure) ↔
      (loadDefinition files web source).Silent := by
  cases ended : (loadDefinition files web source).result with
  | error cause =>
    cases words : cause.message? <;> simp [draft, ended, words, Logged.Silent]
  | ok d =>
    refine iff_of_false ?_ (by simp [Logged.Silent, ended])
    rintro ⟨failure, failed⟩
    simp only [draft, ended] at failed
    split at failed
    · rename_i cause unmade
      exact generate_ne_error worded cause unmade
    · cases failed
    · cases failed

theorem process_error_iff {failure : Failure} :
    (process g options web files source).result = .error failure ↔
      (draft g web files source).result = .error failure := by
  cases drafted : (draft g web files source).result with
  | error cause => simp [process, drafted]
  | ok found =>
    refine iff_of_false ?_ (by simp)
    rcases process_cases g options web files source with
      ⟨output, rfl, here⟩ | ⟨message, here⟩ | ⟨_, failed, _⟩
    · simp [here.written]
    · simp [show (process g options web files source).result = _ from here]
    · simp [drafted] at failed

/-- A worded generator leaves it to the source whether it ends a batch. -/
theorem escapes_iff (options : BatchOptions) (worded : Worded g) : Escapes files web source ↔
    ∃ failure, (process g options web files source).result = .error failure := by
  simp only [process_error_iff, draft_error_iff worded, silent_loadDefinition]

/-- No source escapes in the tree that the batch over the sources before it has left. -/
def NoneEscapes (g : Generator) (options : BatchOptions) (web : Web) (state : BatchRun)
    (sources : List String) : Prop :=
  ∀ before source rest, sources = before ++ source :: rest →
    ¬Escapes (run g options web state before).files web source

theorem noneEscapes_cons {next : BatchRun} {rest : List String}
    (here : ¬Escapes state.files web source)
    (moves : ∀ more, run g options web state (source :: more) = run g options web next more) :
    NoneEscapes g options web state (source :: rest) ↔ NoneEscapes g options web next rest := by
  constructor
  · rintro safe before other back rfl
    rw [← moves]
    exact safe (source :: before) other back rfl
  · rintro safe (_ | ⟨first, before⟩) other back split
    · obtain ⟨rfl, rfl⟩ := List.cons.inj split
      exact here
    · obtain ⟨rfl, rfl⟩ := List.cons.inj split
      rw [moves]
      exact safe before other back rfl

-- One source at a time: it moves the batch on, or it is the one that escapes.
theorem run_returns_iff (worded : Worded g) (going : options.keepsGoing = true)
    (fresh : state.failure = none) :
    (run g options web state sources).failure = none ↔
      NoneEscapes g options web state sources := by
  induction sources generalizing state with
  | nil => exact iff_of_true fresh fun before source rest split => by simp at split
  | cons source rest ih =>
    rcases process_cases g options web state.files source with
      ⟨output, rfl, here⟩ | ⟨message, here⟩ | ⟨failure, _, here⟩
    · have stays : ¬Escapes state.files web output.source := by
        simp [escapes_iff options worded, here.written]
      rw [noneEscapes_cons stays fun more => run_of_writes here, run_of_writes here]
      exact ih fresh
    · have stays : ¬Escapes state.files web source := by
        simp [escapes_iff options worded,
          show (process g options web state.files source).result = _ from here]
      have moves (more : List String) : run g options web state (source :: more) = _ :=
        (run_of_fails here).trans (if_pos going)
      rw [noneEscapes_cons stays moves, moves]
      exact ih fresh
    · refine iff_of_false (by simp [run_cons, here]) fun safe => ?_
      exact safe [] source rest rfl ((escapes_iff options worded).mpr ⟨failure, here⟩)

end OptionProtocol.Batch

namespace OptionProtocol

theorem worded_creditsGenerator : Batch.Worded creditsGenerator := by
  simp [Batch.Worded, creditsGenerator]

end OptionProtocol
