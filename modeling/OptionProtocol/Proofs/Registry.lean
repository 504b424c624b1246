import OptionProtocol.Proofs.Table
import OptionProtocol.Registry

/-! Registries that are built call by call. Other names only lead to languages that are there,
so every name that is resolved has a class of generators. -/

set_option autoImplicit false

namespace OptionProtocol

/-- A call that changes a registry. -/
inductive RegistryCall where
  | register (language : String) (class? : Option GeneratorClass) (aliases : List String)
      (replace : Bool)
  | unregister (language : String)

namespace Registry

variable {r : Registry} {language name target : String} {replace : Bool} {names : List String}

/-- What a call leaves, also when it is refused. -/
def after (r : Registry) : RegistryCall → Registry
  | .register language class? aliases replace => (r.register language class? aliases replace).1
  | .unregister language => r.unregister language

def afterAll (r : Registry) (calls : List RegistryCall) : Registry := calls.foldl after r

/-- Every other name leads to a language that has a class. -/
def AliasesLead (r : Registry) : Prop := ∀ entry ∈ r.aliases, r.hasLanguage entry.2 = true

theorem hasLanguage_iff : r.hasLanguage name = true ↔ ∃ found, r.class? name = some found :=
  Option.isSome_iff_exists

theorem AliasesLead.putAlias (lead : r.AliasesLead) (there : r.hasLanguage language = true) :
    AliasesLead { r with aliases := Json.put r.aliases name language } := by
  intro entry member
  rcases Table.mem_put member with rfl | old
  · exact there
  · exact lead entry old

theorem AliasesLead.putClass (lead : r.AliasesLead) (found : GeneratorClass) :
    AliasesLead { r with classes := Json.put r.classes name found } := by
  intro entry member
  have there : (r.classes.lookup entry.2).isSome = true := lead entry member
  simp only [hasLanguage, class?, Table.lookup_put]
  split
  · rfl
  · exact there

/-- What each name that is given keeps, the whole list keeps, also up to one that is refused. -/
theorem addAliases_keeps (property : Registry → Prop) (start : property r)
    (step : ∀ (r : Registry) (written : String), property r →
      (replace = false → r.aliasFault? language written = none) →
      property { r with aliases := Json.put r.aliases (Text.lowered written) language }) :
    property (r.addAliases language replace names).1 := by
  induction names generalizing r with
  | nil => exact start
  | cons written rest ih =>
    simp only [Registry.addAliases]
    split
    · exact ih start
    · split
      · exact start
      · rename_i granted
        refine ih (step r written start fun kept => ?_)
        simpa [kept] using granted

theorem AliasesLead.addAliases (lead : r.AliasesLead) (there : r.hasLanguage language = true) :
    (r.addAliases language replace names).1.AliasesLead := by
  refine (addAliases_keeps (fun r => r.AliasesLead ∧ r.hasLanguage language = true)
    ⟨lead, there⟩ ?_).1
  rintro r written ⟨lead, there⟩ -
  exact ⟨lead.putAlias there, there⟩

theorem AliasesLead.register (lead : r.AliasesLead) (class? : Option GeneratorClass) :
    (r.register language class? names replace).1.AliasesLead := by
  cases class? with
  | none => exact lead
  | some found =>
    simp only [Registry.register]
    split
    · exact lead
    · refine (lead.putClass found).addAliases ?_
      simp [hasLanguage, Registry.class?, Table.lookup_put]

theorem AliasesLead.unregister (lead : r.AliasesLead) (language : String) :
    (r.unregister language).AliasesLead := by
  intro entry member
  obtain ⟨old, kept⟩ := List.mem_filter.mp member
  have apart : entry.2 ≠ Text.lowered language := by simpa using kept
  have there : (r.classes.lookup entry.2).isSome = true := lead entry old
  simpa only [Registry.unregister, hasLanguage, Registry.class?, Table.lookup_filter_ne apart]
    using there

theorem AliasesLead.after (lead : r.AliasesLead) (call : RegistryCall) :
    (r.after call).AliasesLead := by
  cases call with
  | register language class? aliases replace => exact lead.register class?
  | unregister language => exact lead.unregister language

theorem AliasesLead.afterAll (lead : r.AliasesLead) (calls : List RegistryCall) :
    (r.afterAll calls).AliasesLead := by
  induction calls generalizing r with
  | nil => exact lead
  | cons call rest ih => exact ih (lead.after call)

/-- A name is resolved to the language that it is, or else to the one that it stands for. -/
theorem resolve_eq_ok : r.resolve name = .ok target ↔
    (r.hasLanguage (Text.lowered name) = true ∧ Text.lowered name = target) ∨
      (r.hasLanguage (Text.lowered name) = false ∧
        r.aliases.lookup (Text.lowered name) = some target) := by
  cases there : r.hasLanguage (Text.lowered name) with
  | true => simp [resolve, there]
  | false => cases found : r.aliases.lookup (Text.lowered name) <;> simp [resolve, there, found]

theorem isSupported_iff : r.isSupported name = true ↔ ∃ target, r.resolve name = .ok target := by
  simp only [resolve_eq_ok, isSupported]
  cases there : r.hasLanguage (Text.lowered name) with
  | true => simp
  | false => simp [Option.isSome_iff_exists]

theorem AliasesLead.hasLanguage_of_resolve (lead : r.AliasesLead)
    (resolved : r.resolve name = .ok target) : r.hasLanguage target = true := by
  rcases resolve_eq_ok.mp resolved with ⟨there, rfl⟩ | ⟨_, found⟩
  · exact there
  · exact lead (Text.lowered name, target) (Table.mem_of_lookup found)

/-- Both tables agree: other names lead to languages that are there, the names that count as
supported are those that are resolved, and what is resolved has a class. -/
structure Consistent (r : Registry) : Prop where
  lead : r.AliasesLead
  supported : ∀ name, r.isSupported name = true ↔ ∃ target, r.resolve name = .ok target
  classed : ∀ name target, r.resolve name = .ok target →
    ∃ found, r.class? target = some found ∧ r.generatorClass name = .ok found

theorem AliasesLead.consistent (lead : r.AliasesLead) : r.Consistent where
  lead := lead
  supported _ := isSupported_iff
  classed name target resolved := by
    obtain ⟨found, there⟩ := hasLanguage_iff.mp (lead.hasLanguage_of_resolve resolved)
    exact ⟨found, there, by simp only [generatorClass, resolved, there]⟩

theorem classes_addAliases : (r.addAliases language replace names).1.classes = r.classes :=
  addAliases_keeps (fun s => s.classes = r.classes) rfl fun _ _ same _ => same

theorem mem_classes_register {given found : GeneratorClass}
    (member : (name, found) ∈ (r.register language (some given) names replace).1.classes) :
    found = given ∨ (name, found) ∈ r.classes := by
  simp only [Registry.register] at member
  split at member
  · exact .inr member
  · rw [classes_addAliases] at member
    rcases Table.mem_put member with new | old
    · exact .inl (Prod.mk.inj new).2
    · exact .inr old

theorem class?_standard {found : GeneratorClass} (held : standard.class? name = some found) :
    found = Python.generatorClass := by
  rcases mem_classes_register (Table.mem_of_lookup held) with same | none
  · exact same
  · cases none

theorem createGenerator_ok {files : Files} {source : ConfigurationSource} {g : Generator}
    (made : r.createGenerator files language source = .ok g) :
    ∃ name found configuration, r.class? name = some found ∧
      found.create configuration = .ok g := by
  unfold createGenerator at made
  split at made
  · cases made
  · rename_i name _
    split at made
    · cases made
    · rename_i found held
      split at made
      · cases made
      · rename_i configuration _
        split at made
        · rename_i created
          cases made
          exact ⟨name, found, configuration, held, created⟩
        · cases made

/-- Whatever was registered and unregistered, and whichever calls were refused. -/
theorem consistent_afterAll (calls : List RegistryCall) :
    (({} : Registry).afterAll calls).Consistent := by
  have empty : ({} : Registry).AliasesLead := by simp [AliasesLead]
  exact (empty.afterAll calls).consistent

end Registry

end OptionProtocol
