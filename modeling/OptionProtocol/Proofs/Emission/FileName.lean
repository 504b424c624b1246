import OptionProtocol.Batch
import OptionProtocol.Proofs.Definition.Naming
import OptionProtocol.Proofs.FilePath
import OptionProtocol.Proofs.Loading

/-! Names of files for definitions that were read: their modules and packages are called by
plain names, so that the path of a module goes down from the output directory. -/

set_option autoImplicit false

namespace OptionProtocol

open FilePath

theorem Name.slash_mem_of_snake {s : List Char} (member : '/' ∈ snake s) : '/' ∈ s := by
  unfold snake at member
  have lowered := (collapseUnderscores_sublist _).subset (Text.mem_of_mem_trim member)
  rcases mem_splitCapitals (Text.slash_mem_of_lowerAfter lowered) with hyphen | capitals
  · cases hyphen
  · rcases mem_splitAcronyms capitals with hyphen | acronyms
    · cases hyphen
    · obtain ⟨c, inside, image⟩ := List.mem_map.mp acronyms
      split at image
      · cases image
      · exact image ▸ inside

theorem isIdentifierPart_of_mem {name : String} (identifier : IsIdentifier name) {c : Char}
    (member : c ∈ name.toList) :
    Text.isIdentifierStart c = true ∨ Text.isIdentifierPart c = true := by
  unfold IsIdentifier at identifier
  cases chars : name.toList with
  | nil => simp [chars] at member
  | cons first rest =>
    rw [chars] at identifier member
    simp only [Text.isIdentifier, Bool.and_eq_true, List.all_eq_true] at identifier
    rcases List.mem_cons.mp member with rfl | later
    · exact .inl identifier.1
    · exact .inr (identifier.2 c later)

theorem IsIdentifier.ne {name other : String} (identifier : IsIdentifier name)
    (no : Text.isIdentifier other.toList = false) : name ≠ other := by
  rintro rfl
  exact Bool.false_ne_true (no.symm.trans identifier)

theorem IsIdentifier.isName {name : String} (identifier : IsIdentifier name) : IsName name where
  filled := identifier.ne (by decide)
  notHere := identifier.ne (by decide)
  notAbove := identifier.ne (by decide)
  whole member := absurd (isIdentifierPart_of_mem identifier member) (by decide)

/-- The definition was read from a JSON value. -/
def Definition.Accepted (d : Definition) : Prop :=
  ∃ source value log, Definition.ofJson source value = .ok (d, log)

theorem accepted_of_load {files : Files} {web : Web} {text : String} {d : Definition}
    (loaded : (loadDefinition files web text).result = .ok d) : d.Accepted := by
  obtain ⟨json, log, ok⟩ := loadDefinition_ok loaded
  exact ⟨some text, json, log, ok⟩

theorem Definition.Accepted.names {d : Definition} (accepted : d.Accepted) :
    d.NamesAre IsIdentifier := by
  obtain ⟨source, value, log, ok⟩ := accepted
  obtain ⟨members, rfl, ok⟩ := ofMembers_of_ofJson ok
  exact ofMembers_names ok

/-- A generator names files, without directories, for all definitions that are read. -/
def Generator.NamesFiles (g : Generator) : Prop :=
  ∀ d : Definition, d.Accepted → IsName (g.fileName d)

theorem isName_withExtension {stem : String} (whole : '/' ∉ stem.toList) :
    IsName (stem ++ Python.extension) := by
  have ends : (stem ++ Python.extension).toList = stem.toList ++ ['.', 'p', 'y'] := by
    simp [Python.extension]
  have ne (other : String) (apart : other.toList.getLast? ≠ some 'y') :
      stem ++ Python.extension ≠ other := by
    rintro rfl
    simp [ends] at apart
  refine ⟨ne "" (by decide), ne "." (by decide), ne ".." (by decide), ?_⟩
  simp [ends, whole]

namespace Python

theorem namesFiles (c : Configuration) (style : Style) : (generator c style).NamesFiles := by
  intro d accepted
  have named := accepted.names.className.isName
  change IsName ((if keepsClassName c then _ else _) ++ extension)
  split
  · exact isName_withExtension named.whole
  · refine isName_withExtension fun member => named.whole ?_
    simp only [Name.convert, Text.over, String.toList_ofList, Name.inCase] at member
    exact Name.slash_mem_of_snake member

end Python

/-- The directories of the package, when these are asked for. -/
def BatchOptions.packageNames (options : BatchOptions) (d : Definition) : List String :=
  if options.packageStructure && d.package != "" then Name.parts d.package else []

theorem Definition.Accepted.packageNames {d : Definition} (accepted : d.Accepted)
    (options : BatchOptions) : ∀ name ∈ options.packageNames d, IsName name := by
  intro name member
  unfold BatchOptions.packageNames at member
  split at member
  · rename_i packaged
    simp only [Bool.and_eq_true, bne_iff_ne] at packaged
    exact (accepted.names.package packaged.2 name member).isName
  · cases member

theorem outputPath_eq {g : Generator} {d : Definition} (accepted : d.Accepted)
    (named : g.NamesFiles) (options : BatchOptions) :
    outputPath g options d = ⟨options.outputDirectory.start,
      options.outputDirectory.names ++ (options.packageNames d ++ [g.fileName d])⟩ := by
  have packages := foldl_join (accepted.packageNames options) options.outputDirectory
  have file := (named d accepted).join
  unfold outputPath
  unfold BatchOptions.packageNames at packages ⊢
  split
  · rename_i packaged
    rw [if_pos packaged] at packages
    simp [packages, file]
  · simp [file]

end OptionProtocol
