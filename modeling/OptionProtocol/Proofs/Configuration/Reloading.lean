import OptionProtocol.Proofs.Configuration.Escaping
import OptionProtocol.Proofs.FilePath.Extension
import OptionProtocol.Proofs.Files.Tree
import OptionProtocol.Proofs.Json.RoundTrip
import OptionProtocol.Proofs.Text.LineEnds

/-! Configurations that are saved and loaded again: a configuration whose values are JSON comes
back as it was, for every language, from every path that leads to a JSON file. -/

set_option autoImplicit false

namespace OptionProtocol

namespace Configuration

variable {c : Configuration} {entries : List (String × Json)} {language name : String}
  {files saved : Files} {path : FilePath}

/-- All values of a configuration are JSON that can be stored, and its custom settings have names
of their own. -/
structure IsStorable (c : Configuration) (entries : List (String × Json)) : Prop where
  custom : c.custom = .object entries
  named : c.hasUnnamed = false
  distinct : (entries.map Prod.fst).Nodup
  unknown : ∀ name ∈ entries.map Prod.fst, name ∉ knownKeys
  known : ∀ entry ∈ c.members, Json.IsStorable entry.2
  given : ∀ entry ∈ entries, Json.IsStorable entry.2

theorem keys_members (c : Configuration) : c.members.map Prod.fst =
    ["license_header", "copyright_year", "codec_module", "module_case", "add_comments",
      "generate_properties"] := rfl

theorem known_members {name : String} (member : name ∈ c.members.map Prod.fst) :
    name ∈ knownKeys := by
  rw [keys_members] at member
  revert member name
  decide

theorem nodup_members (c : Configuration) : (c.members.map Prod.fst).Nodup := by
  rw [keys_members]
  decide

theorem nodup_defaultsFor (language : String) :
    ((defaultsFor language).map Prod.fst).Nodup := by
  unfold defaultsFor
  split <;> decide

/-- Entries with other names than the settings stay behind them. -/
theorem IsStorable.putAll_entries (storable : c.IsStorable entries) {table : List (String × Json)}
    (distinct : (table.map Prod.fst).Nodup)
    (known : ∀ name ∈ table.map Prod.fst, name ∈ knownKeys) :
    Json.putAll table entries = table ++ entries := by
  refine Table.putAll_eq_append ?_
  rw [List.map_append]
  refine List.nodup_append.mpr ⟨distinct, storable.distinct, ?_⟩
  rintro name inside _ member rfl
  exact storable.unknown name member (known name inside)

/-- What is written for a configuration. -/
theorem IsStorable.toJson (storable : c.IsStorable entries) :
    c.toJson = .ok (.object (c.members ++ entries)) := by
  have all := storable.putAll_entries (nodup_members c) fun _ => known_members
  rw [Configuration.toJson, storable.custom, settings, Except.map, all]

theorem IsStorable.json (storable : c.IsStorable entries) :
    Json.IsStorable (.object (c.members ++ entries)) := by
  refine .object ?_ (List.forall_mem_append.mpr ⟨storable.known, storable.given⟩)
  rw [List.map_append]
  refine List.nodup_append.mpr ⟨nodup_members c, storable.distinct, ?_⟩
  rintro name inside _ member rfl
  exact storable.unknown name member (known_members inside)

/-- The settings of a language, changed by those that are saved. -/
theorem IsStorable.overlay (storable : c.IsStorable entries) (language : String) :
    Json.putAll (defaultsFor language) (c.members ++ entries) =
      Json.putAll (defaultsFor language) c.members ++ entries := by
  rw [Table.putAll_append]
  refine storable.putAll_entries (Table.nodup_keys_putAll (nodup_defaultsFor language)) ?_
  intro name member
  obtain started | changed := Table.mem_keys_putAll.mp member
  · exact known_defaultsFor started
  · exact known_members changed

theorem lookup_overlay {key : String} {value : Json}
    (held : c.members.reverse.lookup key = some value) (language : String)
    (entries : List (String × Json)) :
    (Json.putAll (defaultsFor language) c.members ++ entries).lookup key = some value := by
  rw [List.lookup_append, Table.lookup_putAll, held]
  rfl

theorem IsStorable.lookup_custom (storable : c.IsStorable entries) (language : String) :
    (Json.putAll (defaultsFor language) c.members ++ entries).lookup "custom" = none := by
  have entry : entries.lookup "custom" = none := by
    refine List.lookup_eq_none_iff.mpr fun entry member => ?_
    have key := storable.unknown entry.1 (List.mem_map_of_mem member)
    have other : "custom" ≠ entry.1 := by
      intro same
      exact key (same ▸ by decide)
    simpa using other
  have member : c.members.reverse.lookup "custom" = none := rfl
  rw [List.lookup_append, Table.lookup_putAll, member, lookup_custom_defaultsFor, entry]
  rfl

theorem IsStorable.filter_unknown (storable : c.IsStorable entries) (language : String) :
    ((Json.putAll (defaultsFor language) c.members ++ entries).filter
      fun entry => !knownKeys.contains entry.1) = entries := by
  have known : ∀ entry ∈ Json.putAll (defaultsFor language) c.members,
      ¬(!knownKeys.contains entry.1) = true := by
    intro entry member
    have key : entry.1 ∈ knownKeys := by
      obtain started | changed := Table.mem_keys_putAll.mp (List.mem_map_of_mem member)
      · exact known_defaultsFor started
      · exact known_members changed
    simpa using key
  have kept : ∀ entry ∈ entries, (!knownKeys.contains entry.1) = true := by
    intro entry member
    simpa using storable.unknown entry.1 (List.mem_map_of_mem member)
  rw [List.filter_append, List.filter_eq_nil_iff.mpr known, List.filter_eq_self.mpr kept,
    List.nil_append]

theorem IsStorable.ofSettings (storable : c.IsStorable entries) (language : String) :
    ofSettings (Json.putAll (defaultsFor language) (c.members ++ entries)) = .ok c := by
  have unknown := storable.filter_unknown language
  have custom := storable.lookup_custom language
  have held {key : String} {value : Json} (held : c.members.reverse.lookup key = some value) :=
    lookup_overlay held language entries
  have all : Json.putAll [] entries = entries := Table.putAll_eq_append storable.distinct
  have same : c = { c with custom := .object entries, hasUnnamed := false } := by
    rw [← storable.custom, ← storable.named]
  -- Every setting is written, so none of those that the language starts from is left.
  rw [storable.overlay]
  simp only [Configuration.ofSettings, Json.lookup?, unknown, custom,
    held (rfl : c.members.reverse.lookup "license_header" = some c.licenseHeader),
    held (rfl : c.members.reverse.lookup "copyright_year" = some c.copyrightYear),
    held (rfl : c.members.reverse.lookup "codec_module" = some c.codecModule),
    held (rfl : c.members.reverse.lookup "module_case" = some c.moduleCase),
    held (rfl : c.members.reverse.lookup "add_comments" = some c.addComments),
    held (rfl : c.members.reverse.lookup "generate_properties" = some c.generateProperties)]
  rw [same]
  cases entries with
  | nil => rfl
  | cons first more =>
    have none : Json.putAll [] ([] : List (String × Json)) = [] := rfl
    simp [settings, Except.map, bind, Except.bind, pure, Except.pure, none, all, hasUnnamedKey]

/-- The path leads to a file, or to a place where there is nothing yet. -/
def LeadsToFile (files : Files) (path : FilePath) : Prop :=
  ∃ place, files.locate path = .ok place ∧ files.node? place ≠ some .directory

theorem write_iff {text : String} :
    (∃ saved, files.write path text = .ok saved) ↔ LeadsToFile files path := by
  constructor
  · rintro ⟨saved, written⟩
    obtain ⟨place, leads, free, _⟩ := Files.write_eq_ok written
    exact ⟨place, leads, free⟩
  · rintro ⟨place, leads, free⟩
    exact ⟨files.put place (.file (.text text)), by simp only [Files.write, leads]⟩

theorem find?_of_write {text : String} (written : files.write path text = .ok saved) :
    saved.find? path = some (.file (.text text)) := by
  obtain ⟨place, leads, keeps, held⟩ := Files.write_ok written
  exact Files.find?_eq_some.mpr ⟨place, keeps.locate leads, held⟩

theorem IsStorable.save_eq_ok (storable : c.IsStorable entries) :
    c.save files path = .ok saved ↔
      files.write path (Json.object (c.members ++ entries)).print = .ok saved := by
  cases written : files.write path (Json.object (c.members ++ entries)).print <;>
    simp [save, storable.toJson, written]

/-- What is read from a file with a printed value is the value. -/
theorem readSettings_printed {members : List (String × Json)}
    (storable : Json.IsStorable (.object members))
    (held : saved.find? path = some (.file (.text (Json.object members).print)))
    (json : path.isJson = true) : readSettings saved path = .ok members := by
  have there : saved.exists? path = true := by
    rw [Files.exists?, held]
    rfl
  have read : saved.read path = .ok (.text (Json.object members).print) := read_eq_ok.mpr held
  have single : '\r' ∉ (Json.object members).print.toList := by
    intro inside
    obtain visible | same := Json.isShown_print storable '\r' inside
    · exact absurd visible (by decide)
    · cases same
  have decoded : (Content.text (Json.object members).print).decode =
      .ok (Json.object members).print := by
    rw [Content.decode, Text.over, Text.normalizeLineEnds_eq_self single, String.ofList_toList]
  simp [readSettings, there, json, read, decoded, settingsOfText, Json.parse_print storable]

theorem readSettings_notJson (held : (saved.find? path).isSome = true)
    (other : path.isJson = false) :
    readSettings saved path = .error (.configuration (.notJson path)) := by
  have there : saved.exists? path = true := held
  simp [readSettings, there, other]

/-- A configuration with a custom object of its own. -/
def tuned : Configuration where
  copyrightYear := .int 2024
  licenseHeader := .text "é \"quoted\"\n"
  custom := .object [("depth", .float (.finite false 4503599627370496 (-53))),
    ("nested", .object [("b", .array [.null, .int (-7)]), ("a", .array [])])]

theorem isStorable_tuned : tuned.IsStorable
    [("depth", .float (.finite false 4503599627370496 (-53))),
      ("nested", .object [("b", .array [.null, .int (-7)]), ("a", .array [])])] where
  custom := rfl
  named := rfl
  distinct := by decide
  unknown := by decide
  known := by
    have year : Json.IsStorable (.int 2024) := .int (by decide +kernel)
    have values : ∀ value ∈ tuned.members.map Prod.snd, Json.IsStorable value := by
      simp [tuned, members, year, Json.IsStorable.text, Json.IsStorable.bool]
    exact fun entry member => values entry.2 (List.mem_map_of_mem member)
  given := by
    have depth : Json.IsStorable (.float (.finite false 4503599627370496 (-53))) :=
      .float (by decide +kernel)
    have filled : Json.IsStorable (.array [.null, .int (-7)]) :=
      .array (by simp [Json.IsStorable.null, Json.IsStorable.int (by decide +kernel :
        Number.isWritable (-7) = true)])
    have empty : Json.IsStorable (.array []) := .array (by simp)
    have nested : Json.IsStorable (.object [("b", .array [.null, .int (-7)]), ("a", .array [])]) :=
      .object (by decide) (by simp [filled, empty])
    simp [depth, nested]

end Configuration

end OptionProtocol
