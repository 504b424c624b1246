import OptionProtocol.Proofs.Batch.Runs
import OptionProtocol.Proofs.Except
import OptionProtocol.Proofs.Files.Growth

/-! What is left of the outputs of a batch when it has ended. Every file holds the last of the
outputs that went to it. -/

set_option autoImplicit false

namespace OptionProtocol

open Files

/-- Both paths lead to one place. -/
def Files.SamePlace (files : Files) (path other : FilePath) : Prop :=
  ∃ place, files.locate path = .ok place ∧ files.locate other = .ok place

/-- A file was written at a place, and nothing else in the tree was changed. -/
structure Wrote (before after : Files) (path : FilePath) (code : String) (place : Place) :
    Prop where
  keeps : Keeps [place] before after
  leads : after.locate path = .ok place
  holds : after.node? place = some (.file (.text code))

variable {files after : Files} {path : FilePath} {code : String}

theorem wrote_of_write (ok : files.write path code = .ok after) :
    ∃ place, Wrote files after path code place := by
  obtain ⟨place, leads, keeps, holds⟩ := write_ok ok
  exact ⟨place, keeps, keeps.locate leads, holds⟩

theorem Wrote.behind {before : Files} {place : Place} (wrote : Wrote files after path code place)
    (keeps : Keeps [] before files) : Wrote before after path code place :=
  ⟨keeps.trans wrote.keeps, wrote.leads, wrote.holds⟩

/-- Write a file in a directory that is there. -/
def attempt (files : Files) (path : FilePath) (code : String) : Files × Option TransferFault :=
  match files.write path code with
  | .ok files => (files, none)
  | .error fault => (files, some (.unwritten path fault))

theorem writeOutput_eq (files : Files) (path : FilePath) (code : String) (makes : Bool) :
    writeOutput files path code makes =
      if files.isDirectory path.parent then attempt files path code
      else if !makes then (files, some (.noDirectory path.parent))
      else
        match files.ensureDirectories path.parent with
        | (files, none) => attempt files path code
        | (files, some fault) => (files, some (.noNewDirectory path.parent fault)) := rfl

/-- How writing ends: the file is written, or there is a fault and nothing was changed. -/
def WritesOrKeeps (files : Files) (path : FilePath) (code : String)
    (ended : Files × Option TransferFault) : Prop :=
  (ended.2 = none ∧ ∃ place, Wrote files ended.1 path code place) ∨
    (ended.2 ≠ none ∧ Keeps [] files ended.1)

theorem WritesOrKeeps.behind {before : Files} {ended : Files × Option TransferFault}
    (ends : WritesOrKeeps files path code ended) (keeps : Keeps [] before files) :
    WritesOrKeeps before path code ended := by
  rcases ends with ⟨done, place, wrote⟩ | ⟨refused, kept⟩
  · exact .inl ⟨done, place, wrote.behind keeps⟩
  · exact .inr ⟨refused, keeps.trans kept⟩

theorem attempt_ends (files : Files) (path : FilePath) (code : String) :
    WritesOrKeeps files path code (attempt files path code) := by
  unfold attempt
  split
  · rename_i written
    exact .inl ⟨rfl, wrote_of_write written⟩
  · exact .inr ⟨by simp, .refl files⟩

-- The attempt comes last, whether the directory was there or had to be made.
theorem writeOutput_ends (files : Files) (path : FilePath) (code : String) (makes : Bool) :
    WritesOrKeeps files path code (writeOutput files path code makes) := by
  rw [writeOutput_eq]
  split
  · exact attempt_ends files path code
  · split
    · exact .inr ⟨by simp, .refl files⟩
    · have keeps := keeps_ensureDirectories files path.parent
      split
      · rename_i ensured
        rw [ensured] at keeps
        exact (attempt_ends _ path code).behind keeps
      · rename_i ensured
        rw [ensured] at keeps
        exact .inr ⟨by simp, keeps⟩

namespace Batch

variable {g : Generator} {options : BatchOptions} {web : Web} {state last : BatchRun}
  {source message : String} {sources : List String} {output : Output} {outputs : List Output}

theorem Writes.wrote (here : Writes g options web files output) :
    ∃ place, Wrote files (process g options web files output.source).files output.path
      output.generated.code place := by
  have written := here.written
  simp only [process, here.drafted, store] at written ⊢
  rw [here.path]
  rcases writeOutput_ends files (outputPath g options output.definition) output.generated.code
    options.makesDirectories with ⟨done, wrote⟩ | ⟨refused, _⟩
  · split
    · rename_i ended
      simpa only [ended] using wrote
    · rename_i ended
      simp [ended] at done
  · split at written
    · rename_i ended
      simp [ended] at refused
    · cases written

theorem Fails.keeps (here : Fails g options web files source message) :
    Keeps [] files (process g options web files source).files := by
  unfold Fails at here
  simp only [process] at here ⊢
  split at here
  · cases here
  · exact .refl files
  · exact .refl files
  · rename_i d generated _
    simp only [store] at here ⊢
    rcases writeOutput_ends files (outputPath g options d) generated.code
      options.makesDirectories with ⟨done, _⟩ | ⟨_, keeps⟩
    · split at here
      · cases here
      · rename_i ended
        simp [ended] at done
    · split
      · rename_i ended
        simpa only [ended] using keeps
      · rename_i ended
        simpa only [ended] using keeps

/-- The places that the outputs went to. -/
def placesOf (files : Files) (outputs : List Output) : List Place :=
  outputs.filterMap fun output => (files.locate output.path).toOption

theorem mem_placesOf {place : Place} :
    place ∈ placesOf files outputs ↔ ∃ output ∈ outputs, files.locate output.path = .ok place := by
  simp [placesOf, List.mem_filterMap, toOption_eq_some]

theorem placesOf_cons {place : Place} (leads : files.locate output.path = .ok place) :
    placesOf files (output :: outputs) = place :: placesOf files outputs := by
  simp [placesOf, leads, Except.toOption]

/-- The file of an output holds the code of the last of the outputs, this one or a later one,
that went to the same place. -/
def HoldsLatest (files : Files) (output : Output) (after : List Output) : Prop :=
  ∃ front latest back, output :: after = front ++ latest :: back ∧
    files.SamePlace latest.path output.path ∧
    (∀ later ∈ back, ¬files.SamePlace later.path output.path) ∧
    files.read output.path = .ok (.text latest.generated.code)

theorem read_of_node? {place : Place} {content : Content} (leads : files.locate path = .ok place)
    (holds : files.node? place = some (.file content)) : files.read path = .ok content := by
  simp only [Files.read, leads, holds]

theorem read_of_samePlace {other : FilePath} {content : Content}
    (same : files.SamePlace path other) (holds : files.read path = .ok content) :
    files.read other = .ok content := by
  obtain ⟨place, leads, alike⟩ := same
  simp only [Files.read, leads, alike] at holds ⊢
  split at holds
  · exact holds
  · cases holds
  · cases holds

theorem holdsLatest_here {place : Place} (leads : files.locate output.path = .ok place)
    (free : place ∉ placesOf files outputs)
    (holds : files.node? place = some (.file (.text output.generated.code))) :
    HoldsLatest files output outputs := by
  refine ⟨[], output, outputs, rfl, ⟨place, leads, leads⟩, ?_, read_of_node? leads holds⟩
  rintro later member ⟨found, alike, same⟩
  cases leads.symm.trans same
  exact free (mem_placesOf.mpr ⟨later, member, alike⟩)

theorem HoldsLatest.of_later {later : Output} {before after : List Output}
    (same : files.SamePlace later.path output.path) (holds : HoldsLatest files later after) :
    HoldsLatest files output (before ++ later :: after) := by
  obtain ⟨place, leads, alike⟩ := same
  obtain ⟨front, latest, back, split, ⟨found, ends, here⟩, last, holds⟩ := holds
  cases leads.symm.trans here
  refine ⟨output :: before ++ front, latest, back, by simp [split], ⟨place, ends, alike⟩, ?_,
    read_of_samePlace ⟨place, leads, alike⟩ holds⟩
  rintro other member ⟨found, away, at_⟩
  cases alike.symm.trans at_
  exact last other member ⟨place, away, leads⟩

-- The places of the later outputs say which outputs are still to be overwritten.
theorem Runs.holdsLatest (runs : Runs g options web state sources outputs last) :
    Keeps (placesOf last.files outputs) state.files last.files ∧
      ∀ before output after, outputs = before ++ output :: after →
        HoldsLatest last.files output after := by
  induction runs with
  | done => exact ⟨.refl _, by simp⟩
  | @wrote state last rest output outputs here _ ih =>
    obtain ⟨keeps, latest⟩ := ih
    obtain ⟨place, wrote⟩ := here.wrote
    have leads := keeps.locate wrote.leads
    refine ⟨placesOf_cons leads ▸ wrote.keeps.trans keeps, ?_⟩
    rintro (_ | ⟨first, before⟩) other after split
    · obtain ⟨rfl, rfl⟩ := List.cons.inj split
      by_cases again : place ∈ placesOf last.files outputs
      · obtain ⟨later, member, same⟩ := mem_placesOf.mp again
        obtain ⟨front, back, rfl⟩ := List.append_of_mem member
        exact .of_later ⟨place, same, leads⟩ (latest front later back rfl)
      · exact holdsLatest_here leads again (keeps.contents place _ again wrote.holds)
    · exact latest before other after (List.cons.inj split).2
  | missed here _ _ ih => exact ⟨here.keeps.trans ih.1, ih.2⟩
  | stopped here _ => exact ⟨here.keeps, by simp⟩

theorem generate_of_draft {d : Definition} {generated : GeneratedCode}
    (drafted : (draft g web files source).result = .ok (.done d generated)) :
    (g.generate d).result = .ok (.done generated) := by
  simp only [draft] at drafted
  split at drafted
  · split at drafted <;> cases drafted
  · split at drafted
    · cases drafted
    · cases drafted
    · rename_i made
      cases drafted
      exact made

theorem Runs.generated (runs : Runs g options web state sources outputs last) :
    ∀ output ∈ outputs, (g.generate output.definition).result = .ok (.done output.generated) := by
  induction runs with
  | done => simp
  | wrote here _ ih =>
    intro output member
    rcases List.mem_cons.mp member with rfl | member
    · exact generate_of_draft here.drafted
    · exact ih output member
  | missed _ _ _ ih => exact ih
  | stopped => simp

end Batch

open Batch in
/-- When a batch has ended, each file that it wrote holds the code that was generated last for
it: that of the last output whose path leads there. -/
theorem generateBatch_holdsLatest {registry : Registry} {files : Files} {web : Web}
    {sources : List String} {options : BatchOptions} {generator : Option Generator}
    {batch : BatchRun}
    (ends : generateBatch registry files web sources options generator = batch)
    (returned : batch.failure = none) :
    ∃ g outputs, generatorFor registry files options generator = .ok g ∧
      Runs g options web { files } sources outputs batch ∧
      batch.report.written = outputs.map Output.path ∧
      (∀ output ∈ outputs, (g.generate output.definition).result = .ok (.done output.generated)) ∧
      ∀ before output after, outputs = before ++ output :: after →
        HoldsLatest batch.files output after := by
  obtain ⟨g, outputs, made, runs⟩ := runs_of_generateBatch ends returned
  exact ⟨g, outputs, made, runs, runs.written_eq, runs.generated, runs.holdsLatest.2⟩

namespace Workshop

open Batch

/-- A batch over both definitions of the workshop, which are of one name. -/
theorem runs_twins : ∃ batch, batch.files = treeWith twin.generated.code ∧
    batch.failure = none ∧
    Runs creditsGenerator options offline { files := tree } [tool.source, twin.source] [tool, twin]
      batch := by
  have written : Writes creditsGenerator options offline afterTool.files twin ∧
      (process creditsGenerator options offline afterTool.files twin.source).files =
        treeWith twin.generated.code := by
    rw [afterTool_files]
    exact twin_written
  refine ⟨_, ?_, ?_, .wrote tool_written.1 (.wrote written.1 .done)⟩
  · rw [BatchRun.files_withOutput_after]
    exact written.2
  · rfl

end Workshop

open Workshop in
theorem generateBatch_holdsLatest_twins :
    ∃ batch, generateBatch Registry.standard tree offline [tool.source, twin.source] options
        (some creditsGenerator) = batch ∧
      batch.failure = none ∧ ∃ outputs : List Output,
        batch.report.written = outputs.map Output.path ∧
        ∀ before output after, outputs = before ++ output :: after →
          Batch.HoldsLatest batch.files output after := by
  obtain ⟨batch, _, returned, runs⟩ := runs_twins
  have ends := runs.generateBatch_eq Registry.standard
  obtain ⟨_, outputs, _, _, written, _, holds⟩ := generateBatch_holdsLatest ends returned
  exact ⟨batch, ends, returned, outputs, written, holds⟩

open Workshop in
/-- The first of two outputs is lost when both go to one path. -/
theorem generateBatch_losesOutput :
    ∃ batch, generateBatch Registry.standard tree offline [tool.source, twin.source] options
        (some creditsGenerator) = batch ∧
      batch.failure = none ∧
      Batch.Runs creditsGenerator options offline { files := tree } [tool.source, twin.source]
        [tool, twin] batch ∧
      batch.report.written = [tool.path, twin.path] ∧
      batch.files.read tool.path ≠ .ok (.text tool.generated.code) := by
  obtain ⟨batch, left, returned, runs⟩ := runs_twins
  refine ⟨batch, runs.generateBatch_eq _, returned, runs, runs.written_eq, ?_⟩
  have read : (treeWith twin.generated.code).read modulePath = .ok (.text twin.generated.code) :=
    rfl
  have codes : twin.generated.code ≠ tool.generated.code := by decide +kernel
  rw [left, show tool.path = modulePath from rfl, read]
  simpa using codes

end OptionProtocol
