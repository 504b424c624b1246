import OptionProtocol.Proofs.Registry
import OptionProtocol.Proofs.Text.Lowering

/-! What a registration that replaces nothing leaves of the names that were resolved before. Other
names are only checked when they are given: a language may be registered later under a name that
stands for another one, and then it shadows that name. Nothing else changes. -/

set_option autoImplicit false

namespace OptionProtocol.Registry

variable {r : Registry} {language name target : String} {class? : Option GeneratorClass}
  {found : GeneratorClass} {names : List String} {replace : Bool}

/-- Other names are in lower case, each once. -/
structure Indexed (r : Registry) : Prop where
  lowered : ∀ entry ∈ r.aliases, Text.lowered entry.1 = entry.1
  distinct : (r.aliases.map Prod.fst).Nodup

namespace Indexed

theorem putAlias (indexed : r.Indexed) (written : String) :
    Indexed { r with aliases := Json.put r.aliases (Text.lowered written) language } where
  lowered entry member := by
    rcases Table.mem_put member with rfl | old
    · exact Text.lowered_lowered written
    · exact indexed.lowered entry old
  distinct := Table.nodup_keys_put indexed.distinct

theorem addAliases (indexed : r.Indexed) :
    (r.addAliases language replace names).1.Indexed :=
  addAliases_keeps Indexed indexed fun _ written indexed _ => indexed.putAlias written

theorem register (indexed : r.Indexed) (class? : Option GeneratorClass) :
    (r.register language class? names replace).1.Indexed := by
  cases class? with
  | none => exact indexed
  | some given =>
    simp only [Registry.register]
    split
    · exact indexed
    · exact addAliases ⟨indexed.lowered, indexed.distinct⟩

theorem unregister (indexed : r.Indexed) (language : String) :
    (r.unregister language).Indexed where
  lowered entry member := indexed.lowered entry (List.mem_filter.mp member).1
  distinct := indexed.distinct.sublist (List.filter_sublist.map Prod.fst)

theorem after (indexed : r.Indexed) (call : RegistryCall) : (r.after call).Indexed := by
  cases call with
  | register language class? aliases replace => exact indexed.register class?
  | unregister language => exact indexed.unregister language

theorem afterAll (indexed : r.Indexed) (calls : List RegistryCall) :
    (r.afterAll calls).Indexed := by
  induction calls generalizing r with
  | nil => exact indexed
  | cons call rest ih => exact ih (indexed.after call)

end Indexed

theorem mem_aliasesOf :
    name ∈ r.aliasesOf language ↔ (name, Text.lowered language) ∈ r.aliases := by
  simp [aliasesOf, List.mem_mergeSort]

/-- A name that is listed for a language leads to it, but for one that is a language itself. -/
theorem Indexed.resolve_listed (indexed : r.Indexed) (listed : name ∈ r.aliasesOf language) :
    r.resolve name =
      .ok (if r.hasLanguage name = true then name else Text.lowered language) := by
  have entry := mem_aliasesOf.mp listed
  have small : Text.lowered name = name := indexed.lowered (name, Text.lowered language) entry
  have target := Table.lookup_of_mem indexed.distinct entry
  rw [resolve_eq_ok, small]
  cases there : r.hasLanguage name <;> simp [target]

-- A name that leads somewhere is not given away. Giving it to its own language changes nothing.
theorem lookup_addAliases (leads : r.aliases.lookup name = some target) :
    (r.addAliases language false names).1.aliases.lookup name = some target := by
  refine addAliases_keeps (fun r => r.aliases.lookup name = some target) leads ?_
  intro r written leads granted
  have granted := granted rfl
  rw [Table.lookup_put]
  split
  · rename_i same
    simp only [aliasFault?, ← same, leads] at granted
    split at granted
    · cases granted
    · split at granted
      · rename_i unchanged
        rw [unchanged]
      · cases granted
  · exact leads

theorem generatorClass_eq_ok : r.generatorClass name = .ok found ↔
    ∃ target, r.resolve name = .ok target ∧ r.class? target = some found := by
  unfold generatorClass
  cases r.resolve name with
  | error fault => simp
  | ok target => cases held : r.class? target <;> simp [held]

/-- A registration that replaces nothing does nothing, or it adds one language and leaves all other
names that were given before. -/
theorem register_cases (r : Registry) (language : String) (class? : Option GeneratorClass)
    (names : List String) :
    (r.register language class? names false).1 = r ∧
        (class? = none ∨ r.hasLanguage (Text.lowered language) = true) ∨
      ∃ given, class? = some given ∧ r.hasLanguage (Text.lowered language) = false ∧
        (∀ name, (r.register language class? names false).1.class? name =
          if name = Text.lowered language then some given else r.class? name) ∧
        ∀ name target, r.aliases.lookup name = some target →
          (r.register language class? names false).1.aliases.lookup name = some target := by
  cases class? with
  | none => exact .inl ⟨rfl, .inl rfl⟩
  | some given =>
    simp only [register, Bool.not_false, Bool.and_true]
    cases there : r.hasLanguage (Text.lowered language) with
    | true => exact .inl ⟨rfl, .inr rfl⟩
    | false =>
      refine .inr ⟨given, rfl, rfl, fun name => ?_, fun name target leads => ?_⟩
      · rw [if_neg Bool.false_ne_true, Registry.class?, classes_addAliases]
        exact Table.lookup_put _ _ _ name
      · exact lookup_addAliases leads

/-- The name only stood for another language, and now the new one is called so. -/
def IsShadowed (r : Registry) (language name : String) : Prop :=
  Text.lowered name = Text.lowered language ∧ r.hasLanguage (Text.lowered name) = false

instance (r : Registry) (language name : String) : Decidable (r.IsShadowed language name) :=
  inferInstanceAs (Decidable (_ ∧ _))

/-- The class of a name that was resolved stays, but for a name that has become the new language. -/
theorem AliasesLead.generatorClass_register (lead : r.AliasesLead)
    (resolved : r.generatorClass name = .ok found) :
    (r.register language class? names false).1.generatorClass name =
      .ok (if r.IsShadowed language name then class?.getD found else found) := by
  obtain ⟨same, idle⟩ | ⟨given, rfl, fresh, classes, leads⟩ :=
    register_cases r language class? names
  · rw [same, resolved]
    congr 1
    split
    · rename_i shadowed
      rcases idle with rfl | there
      · rfl
      · rw [← shadowed.1, shadowed.2] at there
        cases there
    · rfl
  · obtain ⟨target, resolved, held⟩ := generatorClass_eq_ok.mp resolved
    have there (other : String) : (r.register language (some given) names false).1.hasLanguage
        other = (decide (other = Text.lowered language) || r.hasLanguage other) := by
      rw [hasLanguage, classes]
      by_cases same : other = Text.lowered language <;> simp [same, hasLanguage]
    have kept : target ≠ Text.lowered language := by
      rintro rfl
      rw [lead.hasLanguage_of_resolve resolved] at fresh
      cases fresh
    rw [generatorClass_eq_ok]
    simp only [resolve_eq_ok, there, classes]
    rcases resolve_eq_ok.mp resolved with ⟨known, rfl⟩ | ⟨unknown, stands⟩
    · have apart : ¬r.IsShadowed language name := fun shadowed => kept shadowed.1
      exact ⟨Text.lowered name, .inl ⟨by simp [known], rfl⟩, by simp [kept, apart, held]⟩
    · by_cases same : Text.lowered name = Text.lowered language
      · have shadowed : r.IsShadowed language name := ⟨same, unknown⟩
        exact ⟨Text.lowered name, .inl ⟨by simp [same], rfl⟩, by simp [same, shadowed]⟩
      · have apart : ¬r.IsShadowed language name := fun shadowed => same shadowed.1
        exact ⟨target, .inr ⟨by simp [same, unknown], leads _ _ stands⟩,
          by simp [kept, apart, held]⟩

/-- Whatever was registered before, a registration that replaces nothing leaves every name that was
resolved with its class, but for one that the new language shadows, and the names listed for a
language lead to it, but for those that are languages themselves. -/
theorem register_conserves (calls : List RegistryCall) (language : String)
    (class? : Option GeneratorClass) (names : List String) :
    let before := ({} : Registry).afterAll calls
    let after := (before.register language class? names false).1
    (∀ name target, before.resolve name = .ok target →
      ∃ found, before.generatorClass name = .ok found ∧ after.generatorClass name =
        .ok (if before.IsShadowed language name then class?.getD found else found)) ∧
    ∀ r ∈ [before, after], ∀ listing name, name ∈ r.aliasesOf listing →
      r.resolve name = .ok (if r.hasLanguage name = true then name else Text.lowered listing) := by
  intro before after
  have lead : before.AliasesLead := AliasesLead.afterAll (by simp [AliasesLead]) calls
  have indexed : before.Indexed := Indexed.afterAll ⟨by simp, by simp⟩ calls
  constructor
  · intro name target resolved
    obtain ⟨found, _, held⟩ := lead.consistent.classed name target resolved
    exact ⟨found, held, lead.generatorClass_register held⟩
  · intro r reached listing name listed
    rcases List.mem_cons.mp reached with rfl | reached
    · exact indexed.resolve_listed listed
    · obtain rfl := List.mem_singleton.mp reached
      exact (indexed.register class?).resolve_listed listed

/-- Python with its short name, and a second class of generators that is called by that name. -/
def onlyPython : List RegistryCall := [.register "python" (some Python.generatorClass) ["py"] false]

def echoClass : GeneratorClass := { Python.generatorClass with name := "EchoGenerator" }

theorem register_conserves_py :
    let before := ({} : Registry).afterAll onlyPython
    let after := (before.register "py" (some echoClass) ["echo"] false).1
    (∃ found, before.generatorClass "Python" = .ok found ∧
        after.generatorClass "Python" = .ok found) ∧
      after.generatorClass "PY" = .ok echoClass ∧ after.resolve "echo" = .ok "py" := by
  intro before after
  obtain ⟨classes, listed⟩ := register_conserves onlyPython "py" (some echoClass) ["echo"]
  refine ⟨?_, ?_, ?_⟩
  · obtain ⟨found, held, kept⟩ := classes "Python" "python" rfl
    exact ⟨found, held, kept.trans (congrArg Except.ok (if_neg (by decide +kernel)))⟩
  · obtain ⟨found, _, taken⟩ := classes "PY" "python" rfl
    exact taken.trans (congrArg Except.ok (if_pos (by decide +kernel)))
  · exact listed _ (List.mem_cons_of_mem _ List.mem_cons_self) "py" "echo" (by decide +kernel)

/-- The short name of a language may be registered as a language of its own. It leads there from
then on, and it is still listed for the other one. -/
theorem not_register_conserves_py :
    let before := ({} : Registry).afterAll onlyPython
    let after := (before.register "py" (some echoClass) [] false).1
    ¬(∀ name target, before.resolve name = .ok target →
        after.generatorClass name = before.generatorClass name) ∧
      ¬∀ listing name, name ∈ after.aliasesOf listing →
        after.resolve name = .ok (Text.lowered listing) := by
  intro before after
  constructor
  · intro kept
    have same : Except.ok echoClass = Except.ok Python.generatorClass := kept "py" "python" rfl
    exact absurd (congrArg GeneratorClass.name (Except.ok.inj same)) (by decide)
  · intro leads
    have same : Except.ok "py" = Except.ok "python" := leads "python" "py" (by decide +kernel)
    exact absurd (Except.ok.inj same) (by decide)

end OptionProtocol.Registry
