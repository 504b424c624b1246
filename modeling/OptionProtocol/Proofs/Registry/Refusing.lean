import Mathlib.Data.List.TakeWhile
import OptionProtocol.Proofs.Registry.Shadowing

/-! What a registration that is refused leaves behind. Something that is no generator is refused
before anything is done. Other names are only checked one by one when the language is there already,
so a registration that is refused for one of them stays halfway. -/

set_option autoImplicit false

namespace OptionProtocol.Table

variable {Value : Type} {members more : List (String × Value)} {name : String} {value : Value}
  {entry : String × Value}

/-- A name is held with at most this value. -/
def Agrees (members : List (String × Value)) (entry : String × Value) : Prop :=
  ∀ old ∈ members, old.1 = entry.1 → old = entry

theorem mem_put_iff (agrees : Agrees members (name, value)) :
    entry ∈ Json.put members name value ↔ entry ∈ members ∨ entry = (name, value) := by
  constructor
  · exact fun member => (mem_put member).symm
  · induction members with
    | nil => simp [Json.put]
    | cons first rest ih =>
      obtain ⟨here, later⟩ := List.forall_mem_cons.mp agrees
      rw [Json.put]
      split
      · rename_i found
        rw [here found, List.mem_cons]
        exact fun either => either.elim id .inl
      · rintro (old | new)
        · obtain rfl | old := List.mem_cons.mp old
          · exact List.mem_cons_self
          · exact List.mem_cons_of_mem _ (ih later (.inl old))
        · exact List.mem_cons_of_mem _ (ih later (.inr new))

/-- Entries that agree with what is there, and with each other, are only added. -/
theorem mem_putAll_iff (agree : ∀ new ∈ more, Agrees members new ∧ Agrees more new) :
    entry ∈ Json.putAll members more ↔ entry ∈ members ∨ entry ∈ more := by
  induction more generalizing members with
  | nil => simp [Json.putAll]
  | cons first rest ih =>
    have put : ∀ old, old ∈ Json.put members first.1 first.2 ↔ old ∈ members ∨ old = first :=
      fun old => mem_put_iff (agree first List.mem_cons_self).1
    have agree : ∀ new ∈ rest,
        Agrees (Json.put members first.1 first.2) new ∧ Agrees rest new := by
      intro new member
      obtain ⟨there, here⟩ := agree new (List.mem_cons_of_mem _ member)
      refine ⟨fun old inside => ?_, fun old inside => here old (List.mem_cons_of_mem _ inside)⟩
      obtain inside | rfl := (put old).mp inside
      · exact there old inside
      · exact here old List.mem_cons_self
    change entry ∈ Json.putAll (Json.put members first.1 first.2) rest ↔ _
    rw [ih agree, put, List.mem_cons, or_assoc]

end OptionProtocol.Table

namespace OptionProtocol.Registry

variable {r : Registry} {language name target written : String} {class? : Option GeneratorClass}
  {found : GeneratorClass} {names : List String} {replace : Bool} {fault : RegistryFault}

/-- Why a name is refused to a language. Its own name never is. -/
def refusal? (r : Registry) (language written : String) : Option RegistryFault :=
  if Text.lowered written = language then none else r.aliasFault? language written

/-- The names in front of the first that is refused. -/
def granted (r : Registry) (language : String) (names : List String) : List String :=
  names.takeWhile fun written => (r.refusal? language written).isNone

/-- The entries of other names. The language itself is passed over. -/
def entriesOf (language : String) (names : List String) : List (String × String) :=
  ((names.map Text.lowered).filter (· != language)).map (·, language)

theorem mem_entriesOf : (name, target) ∈ entriesOf language names ↔
    target = language ∧ name ≠ language ∧ ∃ written ∈ names, Text.lowered written = name := by
  simp only [entriesOf, List.mem_map, List.mem_filter, Prod.mk.injEq]
  constructor
  · rintro ⟨_, ⟨inside, apart⟩, rfl, rfl⟩
    exact ⟨rfl, by simpa using apart, inside⟩
  · rintro ⟨rfl, apart, inside⟩
    exact ⟨name, ⟨inside, by simpa using apart⟩, rfl, rfl⟩

theorem entriesOf_own (own : Text.lowered written = language) :
    entriesOf language (written :: names) = entriesOf language names := by
  simp [entriesOf, own]

theorem entriesOf_cons (apart : Text.lowered written ≠ language) :
    entriesOf language (written :: names) =
      (Text.lowered written, language) :: entriesOf language names := by
  simp [entriesOf, apart]

theorem aliasFault?_eq_none : r.aliasFault? language written = none ↔
    r.hasLanguage (Text.lowered written) = false ∧
      ∀ target, r.aliases.lookup (Text.lowered written) = some target → target = language := by
  simp only [aliasFault?]
  cases r.hasLanguage (Text.lowered written) with
  | true => simp
  | false => cases r.aliases.lookup (Text.lowered written) <;> simp

/-- A name that is given to the language makes no difference to the next one. -/
theorem refusal?_putAlias (free : r.aliasFault? language name = none) :
    ({ r with aliases := Json.put r.aliases (Text.lowered name) language } : Registry).refusal?
      language = r.refusal? language := by
  funext written
  obtain ⟨noLanguage, leads⟩ := aliasFault?_eq_none.mp free
  simp only [refusal?, aliasFault?, hasLanguage, Registry.class?, Table.lookup_put]
  by_cases same : Text.lowered written = Text.lowered name
  · have absent : (r.classes.lookup (Text.lowered name)).isSome = false := noLanguage
    simp only [same, absent, if_true, Bool.false_eq_true, if_false]
    cases held : r.aliases.lookup (Text.lowered name) with
    | none => rfl
    | some target => simp [leads target held]
  · simp only [same, if_false]
    rfl

/-- Names are given one after the other, up to the first that was refused from the start. -/
theorem addAliases_eq : r.addAliases language false names =
    ({ r with aliases := Json.putAll r.aliases (entriesOf language (r.granted language names)) },
      names.findSome? (r.refusal? language)) := by
  induction names generalizing r with
  | nil => rfl
  | cons written rest ih =>
    simp only [Registry.addAliases, granted, List.takeWhile_cons, List.findSome?_cons,
      Bool.false_eq_true, if_false]
    by_cases own : Text.lowered written = language
    · have free : r.refusal? language written = none := if_pos own
      simp only [own, if_true, free, Option.isNone_none, entriesOf_own own]
      exact ih
    · have asked : r.refusal? language written = r.aliasFault? language written := if_neg own
      rw [if_neg own, asked]
      cases free : r.aliasFault? language written with
      | some fault => rfl
      | none =>
        -- The entry that is put changes no later answer, so the rest goes as from the start.
        simp only [ih, granted, refusal?_putAlias free, Option.isNone_none, if_true,
          entriesOf_cons own]
        rfl

/-- Only other languages count for a refusal, and the new one is not refused to itself. -/
theorem refusal?_putClass : ({ r with classes := Json.put r.classes language found } :
    Registry).refusal? language = r.refusal? language := by
  funext written
  by_cases own : Text.lowered written = language
  · simp [refusal?, own]
  · simp only [refusal?, own, if_false, aliasFault?, hasLanguage, Registry.class?,
      Table.lookup_put]
    rfl

theorem register_eq (fresh : r.hasLanguage (Text.lowered language) = false) :
    r.register language (some found) names false =
      ({ classes := Json.put r.classes (Text.lowered language) found
         aliases := Json.putAll r.aliases
           (entriesOf (Text.lowered language) (r.granted (Text.lowered language) names)) },
        names.findSome? (r.refusal? (Text.lowered language))) := by
  simp only [register, fresh, Bool.false_and, Bool.false_eq_true, if_false, addAliases_eq, granted,
    refusal?_putClass]

theorem addAliases_replacing : (r.addAliases language true names).2 = none := by
  induction names generalizing r with
  | nil => rfl
  | cons written rest ih =>
    simp only [Registry.addAliases, if_true]
    split
    · exact ih
    · exact ih

/-- A registration that is refused either was given no generator, or it was to add a language, and
one of the other names is refused. -/
theorem register_refused_cases
    (refused : (r.register language class? names replace).2 = some fault) :
    class? = none ∨ ∃ found, class? = some found ∧ replace = false ∧
      r.hasLanguage (Text.lowered language) = false := by
  cases class? with
  | none => exact .inl rfl
  | some found =>
    refine .inr ⟨found, rfl, ?_⟩
    simp only [register] at refused
    split at refused
    · cases refused
    · rename_i goesOn
      cases replace with
      | true =>
        rw [addAliases_replacing] at refused
        cases refused
      | false => exact ⟨rfl, by simpa using goesOn⟩

theorem refusal?_of_mem_granted (member : written ∈ r.granted language names) :
    r.refusal? language written = none := by
  unfold granted at member
  exact Option.isNone_iff_eq_none.mp
    (List.mem_takeWhile_imp (p := fun written => (r.refusal? language written).isNone) member)

theorem exists_granted (refused : names.findSome? (r.refusal? language) = some fault) :
    ∃ written rest, names = r.granted language names ++ written :: rest ∧
      r.refusal? language written = some fault := by
  obtain ⟨front, written, rest, rfl, stopped, free⟩ := List.findSome?_eq_some_iff.mp refused
  have taken : r.granted language (front ++ written :: rest) = front := by
    rw [granted, List.takeWhile_append_of_pos (by simpa using free)]
    simp [stopped]
  exact ⟨written, rest, by rw [taken], stopped⟩

/-- Where a registration stays that is refused for one of the other names: the language is there
with its class, and the names in front of the refused one stand for it. -/
structure Halfway (before after : Registry) (language : String) (found : GeneratorClass)
    (front : List String) : Prop where
  fresh : before.hasLanguage language = false
  classes : ∀ name, after.class? name =
    if name = language then some found else before.class? name
  aliases : ∀ name target, (name, target) ∈ after.aliases ↔ (name, target) ∈ before.aliases ∨
    target = language ∧ name ≠ language ∧ ∃ written ∈ front, Text.lowered written = name

theorem Indexed.lookup_of_mem (indexed : r.Indexed) (member : (name, target) ∈ r.aliases) :
    r.aliases.lookup name = some target :=
  Table.lookup_of_mem indexed.distinct member

/-- A name that is granted leads nowhere else. -/
theorem agrees_entriesOf (indexed : r.Indexed) {new : String × String}
    (member : new ∈ entriesOf language (r.granted language names)) :
    Table.Agrees r.aliases new ∧
      Table.Agrees (entriesOf language (r.granted language names)) new := by
  obtain ⟨name, target⟩ := new
  obtain ⟨rfl, apart, written, inside, rfl⟩ := mem_entriesOf.mp member
  constructor
  · rintro ⟨old, leadsTo⟩ held rfl
    have free : r.refusal? target written = none := refusal?_of_mem_granted inside
    rw [refusal?, if_neg apart, aliasFault?_eq_none] at free
    exact Prod.ext rfl (free.2 leadsTo (indexed.lookup_of_mem held))
  · rintro ⟨old, leadsTo⟩ held rfl
    exact Prod.ext rfl (mem_entriesOf.mp held).1

theorem halfway_register (indexed : r.Indexed)
    (fresh : r.hasLanguage (Text.lowered language) = false) :
    Halfway r (r.register language (some found) names false).1 (Text.lowered language) found
      (r.granted (Text.lowered language) names) := by
  rw [register_eq fresh]
  refine ⟨fresh, fun name => Table.lookup_put _ _ _ name, fun name target => ?_⟩
  rw [← mem_entriesOf]
  exact Table.mem_putAll_iff fun new member => agrees_entriesOf indexed member

theorem Halfway.ne {before after : Registry} {front : List String}
    (halfway : Halfway before after language found front) : after ≠ before := by
  rintro rfl
  have held : after.class? language = some found := by rw [halfway.classes, if_pos rfl]
  have missing : (after.class? language).isSome = false := halfway.fresh
  rw [held] at missing
  cases missing

/-- Whatever was registered before, a registration that is refused leaves the registry as it was
exactly when it was given no generator. Otherwise it stays halfway: the language is registered, and
so are the other names in front of the first that is refused. -/
theorem register_staysHalfway (calls : List RegistryCall)
    (refused : ((({} : Registry).afterAll calls).register language class? names replace).2 =
      some fault) :
    let before := ({} : Registry).afterAll calls
    let after := (before.register language class? names replace).1
    (after = before ↔ class? = none) ∧
      ∀ found, class? = some found → replace = false ∧
        ∃ front written rest, names = front ++ written :: rest ∧
          (∀ earlier ∈ front, before.refusal? (Text.lowered language) earlier = none) ∧
          before.refusal? (Text.lowered language) written = some fault ∧
          Halfway before after (Text.lowered language) found front := by
  intro before after
  have indexed : before.Indexed := Indexed.afterAll ⟨by simp, by simp⟩ calls
  obtain rfl | ⟨found, rfl, rfl, fresh⟩ := register_refused_cases refused
  · exact ⟨iff_of_true rfl rfl, by simp⟩
  · have halfway : Halfway before after (Text.lowered language) found _ :=
      halfway_register indexed fresh
    rw [register_eq fresh] at refused
    obtain ⟨written, rest, split, stopped⟩ := exists_granted refused
    refine ⟨iff_of_false halfway.ne (by simp), fun given same => ?_⟩
    obtain rfl : found = given := Option.some.inj same
    exact ⟨rfl, _, written, rest, split, fun earlier => refusal?_of_mem_granted, stopped, halfway⟩

/-- The second of two other names stands for Python already. -/
theorem register_staysHalfway_py :
    let before := ({} : Registry).afterAll onlyPython
    let after := (before.register "Echo" (some echoClass) ["say", "PY", "e"] false).1
    (before.register "Echo" (some echoClass) ["say", "PY", "e"] false).2 =
        some (.aliasTaken "PY" "python") ∧
      after ≠ before ∧ ∃ front, Halfway before after "echo" echoClass front := by
  intro before after
  have refused : (before.register "Echo" (some echoClass) ["say", "PY", "e"] false).2 =
      some (.aliasTaken "PY" "python") := by decide +kernel
  have small : Text.lowered "Echo" = "echo" := by decide +kernel
  obtain ⟨same, ends⟩ := register_staysHalfway onlyPython refused
  obtain ⟨_, front, _, _, _, _, _, halfway⟩ := ends echoClass rfl
  rw [small] at halfway
  exact ⟨refused, fun equal => absurd (same.mp equal) (by simp), front, halfway⟩

/-- A registration is refused for its second name, and still its language is supported from then
on, also by its first name. Made again without that name, it is taken for one that was made before,
and its other names never come. -/
theorem not_register_leaves_echo :
    let before := ({} : Registry).afterAll onlyPython
    let ended := before.register "echo" (some echoClass) ["say", "py"] false
    let again := ended.1.register "echo" (some echoClass) ["say", "e"] false
    ended.2 = some (.aliasTaken "py" "python") ∧
      (before.classes.map Prod.fst = ["python"] ∧ before.aliases = [("py", "python")]) ∧
      (ended.1.classes.map Prod.fst = ["python", "echo"] ∧
        ended.1.aliases = [("py", "python"), ("say", "echo")]) ∧
      again.2 = none ∧ again.1.aliases = ended.1.aliases := by
  decide +kernel

end OptionProtocol.Registry
