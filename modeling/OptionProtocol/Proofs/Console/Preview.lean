import OptionProtocol.Console.Session
import OptionProtocol.Proofs.Batch.Ledger

/-! What the command prints of modules and reports. Markup with a tag that closes nothing breaks it
off; apart from that, a preview comes to the ledger of its sources. -/

set_option autoImplicit false

namespace OptionProtocol

namespace Markup

/-- A text without brackets has no tags, so that nothing in it can be broken. -/
theorem shown_pieces {s : List Char} (free : '[' ∉ s) (count : Nat) (opened : List String) :
    (shown opened (pieces count s)).isSome = true := by
  induction s generalizing count with
  | nil => simp [pieces, shown]
  | cons c rest ih =>
    rw [List.mem_cons, not_or] at free
    rw [pieces]
    split
    · exact ih free.2 _
    · rw [if_neg (Ne.symm free.1), shown, Option.isSome_map]
      exact ih free.2 0

theorem isSome_render {s : String} (free : '[' ∉ s.toList) : (render s).isSome = true := by
  rw [render, Option.isSome_map]
  exact shown_pieces free 0 []

end Markup

namespace Session

/-- Markup is all that stops the printing of warnings. -/
theorem warningItems_failure (warnings : List String) :
    (warningItems warnings).2 = none ∨ (warningItems warnings).2 = some .markup := by
  induction warnings with
  | nil => exact .inl rfl
  | cons warning rest ih =>
    rw [warningItems]
    split
    · exact .inr rfl
    · exact ih

theorem warningLines_failure (warnings : List String) :
    (warningLines warnings).2 = none ∨ (warningLines warnings).2 = some .markup := by
  unfold warningLines
  split
  · exact .inl rfl
  · exact warningItems_failure warnings

theorem reportLines_failure (report : BatchReport) (verbose : Bool) :
    (reportLines report verbose).2 = none ∨ (reportLines report verbose).2 = some .markup := by
  unfold reportLines
  split
  · exact .inr rfl
  · cases verbose with
    | true => exact warningLines_failure report.warnings
    | false => exact .inl rfl

theorem warningItems_printed {warnings : List String}
    (free : ∀ warning ∈ warnings, '[' ∉ warning.toList) : (warningItems warnings).2 = none := by
  induction warnings with
  | nil => rfl
  | cons warning rest ih =>
    rw [List.forall_mem_cons] at free
    obtain ⟨shown, rendered⟩ := Option.isSome_iff_exists.mp (Markup.isSome_render free.1)
    rw [warningItems, rendered]
    exact ih free.2

theorem warningLines_printed {warnings : List String}
    (free : ∀ warning ∈ warnings, '[' ∉ warning.toList) : (warningLines warnings).2 = none := by
  unfold warningLines
  split
  · rfl
  · exact warningItems_printed free

theorem pathRows_printed {paths : List FilePath}
    (free : ∀ path ∈ paths, '[' ∉ path.text.toList) : (pathRows paths).isSome = true := by
  induction paths with
  | nil => rfl
  | cons path rest ih =>
    rw [List.forall_mem_cons] at free
    obtain ⟨row, rendered⟩ := Option.isSome_iff_exists.mp (Markup.isSome_render free.1)
    obtain ⟨rows, more⟩ := Option.isSome_iff_exists.mp (ih free.2)
    rw [pathRows, rendered, more]
    rfl

theorem reportLines_printed {report : BatchReport}
    {verbose : Bool} (paths : ∀ path ∈ report.written, '[' ∉ path.text.toList)
    (warnings : verbose = true → ∀ warning ∈ report.warnings, '[' ∉ warning.toList) :
    (reportLines report verbose).2 = none := by
  obtain ⟨rows, listed⟩ := Option.isSome_iff_exists.mp (pathRows_printed paths)
  rw [reportLines, listed]
  cases verbose with
  | true => exact warningLines_printed (warnings rfl)
  | false => rfl

end Session

def Generator.exhibit (g : Generator) (entry : Definition × GeneratedCode) : Exhibit :=
  ⟨g.fileName entry.1, entry.2⟩

namespace Session

open Batch

variable {g : Generator} {web : Web} {files : Files} {keepsGoing : Bool} {state : Preview}
  {sources : List String}

/-- The preview goes on when a module has been shown. -/
def withExhibit (state : Preview) (log : List LogRecord) (exhibit : Exhibit) : Preview :=
  { state with
    log := state.log ++ log
    exhibits := state.exhibits ++ [exhibit]
    output := state.output ++ exhibitLines exhibit ++ (warningLines exhibit.generated.warnings).1
    failure := none }

def withMessage (state : Preview) (log : List LogRecord) (message : String) : Preview :=
  { state with log := state.log ++ log, errors := state.errors ++ [message] }

variable {source message : String} {rest : List String} {d : Definition}
  {generated : GeneratedCode}

theorem preview_of_done
    (drafted : (draft g web files source).result = .ok (.done d generated))
    (printed : (warningLines generated.warnings).2 = none) :
    preview g web files keepsGoing state (source :: rest) =
      preview g web files keepsGoing
        (withExhibit state (draft g web files source).log (g.exhibit (d, generated))) rest := by
  simp only [preview, drafted, printed]
  rfl

theorem preview_of_broken
    (drafted : (draft g web files source).result = .ok (.done d generated))
    (broken : (warningLines generated.warnings).2 = some .markup) :
    (preview g web files keepsGoing state (source :: rest)).failure = some .markup := by
  simp [preview, drafted, broken]

theorem preview_of_notLoaded
    (drafted : (draft g web files source).result = .ok (.notLoaded message)) :
    preview g web files keepsGoing state (source :: rest) =
      if keepsGoing then
        preview g web files keepsGoing (withMessage state (draft g web files source).log
          (failureMessage source none message)) rest
      else withMessage state (draft g web files source).log
        (failureMessage source none message) := by
  simp only [preview, drafted, withMessage]

theorem preview_of_refused
    (drafted : (draft g web files source).result = .ok (.refused message)) :
    preview g web files keepsGoing state (source :: rest) =
      if keepsGoing then
        preview g web files keepsGoing
          (withMessage state (draft g web files source).log message) rest
      else withMessage state (draft g web files source).log message := by
  simp only [preview, drafted, withMessage]

/-- A preview comes to what the ledger says. -/
structure Shows (g : Generator) (before after : Preview) (ledger : Ledger) : Prop where
  exhibits : after.exhibits = before.exhibits ++ ledger.made.map g.exhibit
  errors : after.errors = before.errors ++ ledger.errors
  failure : after.failure = ledger.failure

theorem Shows.made {log : List LogRecord} {last : Preview} {more : Ledger}
    (shows_ : Shows g (withExhibit state log (g.exhibit (d, generated))) last more) :
    Shows g state last (more.withMade d generated) where
  exhibits := by simp [shows_.exhibits, withExhibit, Ledger.withMade]
  errors := shows_.errors
  failure := shows_.failure

theorem Shows.missed {log : List LogRecord} {last : Preview} {more : Ledger}
    (fresh : state.failure = none)
    (goes : keepsGoing = true → Shows g (withMessage state log message) last more) :
    Shows g state (if keepsGoing then last else withMessage state log message)
      (more.ofError keepsGoing message) := by
  cases keepsGoing with
  | true =>
    have shows_ := goes rfl
    exact ⟨shows_.exhibits, by simp [shows_.errors, withMessage, Ledger.ofError], shows_.failure⟩
  | false => exact ⟨by simp [withMessage, Ledger.ofError], rfl, fresh⟩

-- All sources are read from the one tree, as in the ledger: only markup can come between.
theorem preview_shows (fresh : state.failure = none)
    (plain : (preview g web files keepsGoing state sources).failure ≠ some .markup) :
    Shows g state (preview g web files keepsGoing state sources)
      (ledger g web files keepsGoing sources) := by
  induction sources generalizing state with
  | nil => exact ⟨by simp [preview, ledger], by simp [preview, ledger], fresh⟩
  | cons source rest ih =>
    cases drafted : (draft g web files source).result with
    | error failure =>
      simp only [preview, ledger, drafted]
      exact ⟨by simp, by simp, rfl⟩
    | ok found =>
      simp only [ledger, drafted]
      cases found with
      | notLoaded message =>
        rw [preview_of_notLoaded drafted] at plain ⊢
        refine .missed fresh fun going => ih fresh ?_
        simpa only [going, if_true] using plain
      | refused message =>
        rw [preview_of_refused drafted] at plain ⊢
        refine .missed fresh fun going => ih fresh ?_
        simpa only [going, if_true] using plain
      | done d generated =>
        rcases warningLines_failure generated.warnings with printed | broken
        · rw [preview_of_done drafted printed] at plain ⊢
          exact .made (ih rfl plain)
        · exact absurd (preview_of_broken drafted broken) plain

end Session

end OptionProtocol
