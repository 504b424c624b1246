import OptionProtocol.Proofs.Except
import OptionProtocol.Proofs.Loading
import OptionProtocol.Proofs.Registry
import OptionProtocol.Proofs.Table

/-! Where the making of a configuration, and of a generator from it, ends without words for what
went wrong: when the bytes of a file are no text, when an integer in it is too long, or when there
are settings that are not known next to custom ones that cannot be told apart. -/

set_option autoImplicit false

namespace OptionProtocol

namespace Configuration

variable {files : Files} {path : FilePath} {language name : String} {failure : Failure}
  {members : List (String × Json)} {item : Json} {fault : SettingsFault}

/-- How many parts a value has, if it has parts. -/
def width? : Json → Option Nat
  | .array items => some items.length
  | .object members => some members.length
  | .text s => some s.toList.length
  | _ => none

/-- An item of a list from which a setting is made. -/
def GivesSetting (item : Json) : Prop := ∃ index pair, pairOfItem index item = .ok pair

/-- Custom settings that are not told apart: a text, or a list with an item whose parts are not
just a key and a value. The items in front of it are settings. -/
inductive Uneven : Json → Prop where
  | text {s : String} (filled : s ≠ "") : Uneven (.text s)
  | list {front rest : List Json} {item : Json} {width : Nat}
      (settled : ∀ earlier ∈ front, GivesSetting earlier) (parted : width? item = some width)
      (unpaired : width ≠ 2) : Uneven (.array (front ++ item :: rest))

theorem pairOf_ne_wrongLength (key value : Json) : pairOf key value ≠ .error .wrongLength := by
  cases key <;> simp [pairOf]

theorem pairOfItem_eq_wrongLength {index : Nat} :
    pairOfItem index item = .error .wrongLength ↔
      ∃ width, width? item = some width ∧ width ≠ 2 := by
  cases item with
  | array items =>
    match items with
    | [] | [_] | _ :: _ :: _ :: _ => simp [pairOfItem, width?]
    | [key, value] => simp [pairOfItem, width?, pairOf_ne_wrongLength]
  | object members =>
    match members with
    | [] | [_] | _ :: _ :: _ :: _ => simp [pairOfItem, width?]
    | [(key, _), (value, _)] => simp [pairOfItem, width?]
  | text s =>
    simp only [pairOfItem, width?]
    match s.toList with
    | [] | [_] | _ :: _ :: _ :: _ => simp
    | [key, value] => simp
  | _ => simp [pairOfItem, width?]

/-- Where in the list the item stands makes no difference. -/
theorem GivesSetting.at (gives : GivesSetting item) (index : Nat) :
    ∃ pair, pairOfItem index item = .ok pair := by
  obtain ⟨other, pair, made⟩ := gives
  refine ⟨pair, ?_⟩
  cases item with
  | array items =>
    match items with
    | [] | [_] | _ :: _ :: _ :: _ => cases made
    | [key, value] => exact made
  | object members =>
    match members with
    | [] | [_] | _ :: _ :: _ :: _ => cases made
    | [_, _] => exact made
  | text s => exact made
  | _ => cases made

theorem pairsOfItems_eq_wrongLength {index : Nat} {items : List Json} :
    pairsOfItems index items = .error .wrongLength ↔
      ∃ front item rest, items = front ++ item :: rest ∧ (∀ earlier ∈ front, GivesSetting earlier) ∧
        ∃ width, width? item = some width ∧ width ≠ 2 := by
  induction items generalizing index with
  | nil => simp [pairsOfItems]
  | cons first rest ih =>
    simp only [pairsOfItems, bind_eq_error]
    constructor
    · rintro (here | ⟨pair, made, later | ⟨_, _, none⟩⟩)
      · exact ⟨[], first, rest, rfl, by simp, pairOfItem_eq_wrongLength.mp here⟩
      · obtain ⟨front, item, after, rfl, settled, uneven⟩ := ih.mp later
        exact ⟨first :: front, item, after, rfl,
          List.forall_mem_cons.mpr ⟨⟨index, pair, made⟩, settled⟩, uneven⟩
      · cases none
    · rintro ⟨front, item, after, split, settled, uneven⟩
      cases front with
      | nil =>
        obtain ⟨rfl, rfl⟩ := List.cons.inj split
        exact .inl (pairOfItem_eq_wrongLength.mpr uneven)
      | cons _ front =>
        obtain ⟨rfl, rfl⟩ := List.cons.inj split
        obtain ⟨gives, settled⟩ := List.forall_mem_cons.mp settled
        obtain ⟨pair, made⟩ := gives.at index
        exact .inr ⟨pair, made, .inl (ih.mpr ⟨front, item, after, rfl, settled, uneven⟩)⟩

theorem settings_eq_wrongLength {custom : Json} :
    settings custom = .error .wrongLength ↔ Uneven custom := by
  constructor
  · intro failed
    cases custom with
    | text s =>
      refine .text ?_
      rintro rfl
      cases failed
    | array items =>
      obtain ⟨front, item, rest, rfl, settled, width, parted, unpaired⟩ :=
        pairsOfItems_eq_wrongLength.mp failed
      exact .list settled parted unpaired
    | _ => cases failed
  · rintro (filled | ⟨settled, parted, unpaired⟩)
    · simp [settings]
    · exact pairsOfItems_eq_wrongLength.mpr ⟨_, _, _, rfl, settled, _, parted, unpaired⟩

theorem pairsOfItems_ne_noSplit {index : Nat} {items : List Json} :
    pairsOfItems index items ≠ .error .noSplit := by
  induction items generalizing index with
  | nil => simp [pairsOfItems]
  | cons first rest ih =>
    simp only [pairsOfItems, ne_eq, bind_eq_error, not_or, not_exists, not_and]
    refine ⟨fun failed => ?_, fun pair made => ⟨ih, fun more made => by simp [pure, Except.pure]⟩⟩
    unfold pairOfItem pairOf at failed
    repeat' split at failed
    all_goals cases failed

theorem settings_ne_noSplit {custom : Json} : settings custom ≠ .error .noSplit := by
  intro failed
  unfold settings at failed
  repeat' split at failed
  all_goals first | exact pairsOfItems_ne_noSplit failed | cases failed

/-- There are settings that are not known, to be put to custom ones of a certain kind. Of several
values under one key the last one counts. -/
def Mixes (kind : Json → Prop) (members : List (String × Json)) : Prop :=
  (∃ name ∈ members.map Prod.fst, name ∉ knownKeys) ∧
    ∃ custom, members.reverse.lookup "custom" = some custom ∧ kind custom

theorem known_defaultsFor (member : name ∈ (defaultsFor language).map Prod.fst) :
    name ∈ knownKeys := by
  unfold defaultsFor at member
  split at member
  · revert member name
    decide
  · simp at member

theorem lookup_custom_defaultsFor : (defaultsFor language).lookup "custom" = none := by
  unfold defaultsFor
  split <;> rfl

theorem isEmpty_filter_eq_false {table : List (String × Json)} :
    (table.filter fun entry => !knownKeys.contains entry.1).isEmpty = false ↔
      ∃ name ∈ table.map Prod.fst, name ∉ knownKeys := by
  simp [List.filter_eq_nil_iff, List.isEmpty_eq_false_iff]

theorem ofSettings_eq_error {table : List (String × Json)} : ofSettings table = .error fault ↔
    (∃ name ∈ table.map Prod.fst, name ∉ knownKeys) ∧
      ∃ custom, table.lookup "custom" = some custom ∧ settings custom = .error fault := by
  rw [← isEmpty_filter_eq_false]
  simp only [ofSettings, Json.lookup?]
  cases (table.filter fun entry => !knownKeys.contains entry.1).isEmpty with
  | true => simp [bind_eq_error, pure, Except.pure]
  | false =>
    cases table.lookup "custom" with
    | none => simp [bind_eq_error, settings, Except.map, pure, Except.pure]
    | some custom => simp [bind_eq_error, map_eq_error, pure, Except.pure]

/-- What a language starts from makes no difference. -/
theorem ofSettings_over_defaults_eq_error :
    ofSettings (Json.putAll (defaultsFor language) members) = .error fault ↔
      Mixes (settings · = .error fault) members := by
  rw [ofSettings_eq_error, Mixes, Table.lookup_putAll, lookup_custom_defaultsFor, Option.or_none]
  refine and_congr_left fun _ => exists_congr fun name => ?_
  rw [Table.mem_keys_putAll]
  refine and_congr_left fun unknown => ⟨?_, .inr⟩
  exact fun either => either.resolve_left fun started => unknown (known_defaultsFor started)

/-- The file is asked for, but its bytes are no text, or an integer in it is too long. -/
def IsUnreadable (files : Files) (path : FilePath) : Prop :=
  path.isJson = true ∧
    ((∃ content fault, files.read path = .ok content ∧ content.decode = .error fault) ∨
      HasLongInteger files path)

theorem settingsOfText_eq_value {text : String} :
    (∃ fault, settingsOfText path text = .error (.value fault)) ↔
      ∃ count, Json.parse text = .error (.integerTooLong count) := by
  unfold settingsOfText
  split
  · simp [*]
  · simp [*]
  · rename_i count long
    exact iff_of_true ⟨_, rfl⟩ ⟨count, long⟩
  · rename_i fault other failed
    simpa [failed] using other

theorem readSettings_eq_value :
    (∃ fault, readSettings files path = .error (.value fault)) ↔ IsUnreadable files path := by
  unfold readSettings IsUnreadable HasLongInteger
  cases read : files.read path with
  | error fault => simp; grind
  | ok content =>
    have there : files.exists? path = true := by
      rw [Files.exists?, read_eq_ok.mp read]
      rfl
    rw [there]
    cases path.isJson with
    | false => simp
    | true =>
      cases decoded : content.decode with
      | error fault => simp [decoded]
      | ok text => simp [decoded, settingsOfText_eq_value]

theorem readSettings_failure (failed : readSettings files path = .error failure) :
    (∃ fault, failure = .configuration fault) ∨ ∃ fault, failure = .value fault := by
  unfold readSettings settingsOfText at failed
  repeat' split at failed
  all_goals cases failed
  all_goals first | exact .inl ⟨_, rfl⟩ | exact .inr ⟨_, rfl⟩

/-- What a configuration is made from, with the faults of a load. -/
theorem made_eq_mapError (table : List (String × Json)) :
    (match ofSettings table with
      | .ok configuration => pure configuration
      | .error fault => throw (Failure.settings fault)) =
      (ofSettings table).mapError Failure.settings := by
  cases ofSettings table <;> rfl

theorem load_given (files : Files) (language : String) (members : List (String × Json)) :
    load files language (.object members) none =
      (ofSettings (Json.putAll (defaultsFor language) members)).mapError .settings := by
  have given : givenSettings (.object members) = .ok members := by
    cases members <;> rfl
  simp only [load, given]
  exact made_eq_mapError (Json.putAll (defaultsFor language) members)

/-- With nothing given besides the file, its settings are put to those of the language. -/
theorem load_file (named : name ≠ "") : load files language .null (some name) =
    (readSettings files (.ofString name)).bind fun members =>
      (ofSettings (Json.putAll (defaultsFor language) members)).mapError .settings := by
  simp only [load]
  cases readSettings files (.ofString name) with
  | error failure => rfl
  | ok members => exact made_eq_mapError (Json.putAll (defaultsFor language) members)

/-- What is read from a file is no configuration, and there are no words for that. -/
inductive FileEscapes (kind : Json → Prop) (files : Files) (path : FilePath) : Prop where
  | unreadable (unreadable : IsUnreadable files path)
  | mixed {members : List (String × Json)} (read : readSettings files path = .ok members)
      (mixes : Mixes kind members)

/-- The custom settings are none, for a reason of which nothing is known at this place. -/
def Loses (lost : Failure → Prop) (custom : Json) : Prop :=
  ∃ fault, settings custom = .error fault ∧ lost (.settings fault)

variable {lost : Failure → Prop}

theorem ofSettings_over_defaults_loses :
    (∃ failure,
      (ofSettings (Json.putAll (defaultsFor language) members)).mapError Failure.settings =
        .error failure ∧ lost failure) ↔ Mixes (Loses lost) members := by
  constructor
  · rintro ⟨failure, failed, here⟩
    cases made : ofSettings (Json.putAll (defaultsFor language) members) with
    | ok configuration =>
      rw [made] at failed
      cases failed
    | error fault =>
      rw [made] at failed
      obtain rfl : Failure.settings fault = failure := Except.error.inj failed
      obtain ⟨unknown, custom, held, failed⟩ := ofSettings_over_defaults_eq_error.mp made
      exact ⟨unknown, custom, held, fault, failed, here⟩
  · rintro ⟨unknown, custom, held, fault, failed, here⟩
    refine ⟨.settings fault, ?_, here⟩
    rw [ofSettings_over_defaults_eq_error.mpr ⟨unknown, custom, held, failed⟩]
    rfl

/-- Of the faults of a file itself, all have words but those of its content. -/
theorem load_file_loses (value : ∀ fault, lost (.value fault))
    (told : ∀ fault, ¬lost (.configuration fault)) (named : name ≠ "") :
    (∃ failure, load files language .null (some name) = .error failure ∧ lost failure) ↔
      FileEscapes (Loses lost) files (.ofString name) := by
  rw [load_file named]
  constructor
  · rintro ⟨failure, failed, here⟩
    cases read : readSettings files (.ofString name) with
    | ok members =>
      rw [read] at failed
      exact .mixed read (ofSettings_over_defaults_loses.mp ⟨failure, failed, here⟩)
    | error other =>
      rw [read] at failed
      cases failed
      obtain ⟨fault, rfl⟩ | ⟨fault, rfl⟩ := readSettings_failure read
      · exact absurd here (told fault)
      · exact .unreadable (readSettings_eq_value.mp ⟨fault, read⟩)
  · rintro (unreadable | ⟨read, mixes⟩)
    · obtain ⟨fault, read⟩ := readSettings_eq_value.mpr unreadable
      exact ⟨.value fault, by rw [read]; rfl, value fault⟩
    · obtain ⟨failure, failed, here⟩ := ofSettings_over_defaults_loses.mpr mixes
      exact ⟨failure, by rw [read]; exact failed, here⟩

theorem load_default (files : Files) (language : String) :
    ∃ c, load files language .null none = .ok c := by
  cases made : ofSettings (defaultsFor language) with
  | ok c =>
    refine ⟨c, (made_eq_mapError (defaultsFor language)).trans ?_⟩
    rw [made]
    rfl
  | error fault =>
    -- It takes custom settings for a fault, and no language has any.
    obtain ⟨_, custom, held, _⟩ := ofSettings_eq_error.mp made
    rw [lookup_custom_defaultsFor] at held
    cases held

end Configuration

open OptionProtocol.Configuration

/-- Why there is no configuration from a source, and no words for that. -/
inductive ConfigurationSource.Escapes (files : Files) : ConfigurationSource → Prop where
  | file {name : String} (named : name ≠ "")
      (escapes : FileEscapes Uneven files (.ofString name)) : Escapes files (.file name)
  | given {members : List (String × Json)} (mixes : Mixes Uneven members) :
      Escapes files (.given members)

namespace Registry

variable {files : Files} {failure : Failure}

/-- The registry has no words for a failure. -/
def IsLost : Failure → Prop
  | .configuration _ | .registry _ => False
  | .settings fault => fault.typeMessage? = none
  | _ => True

theorem isLost_iff (language : String) :
    IsLost failure ↔ ∀ fault, creationFailure language failure ≠ .registry fault := by
  cases failure with
  | settings fault => cases told : fault.typeMessage? <;> simp [IsLost, creationFailure, told]
  | _ => simp [IsLost, creationFailure]

/-- There are words for every fault of a type. -/
theorem isLost_settings {fault : SettingsFault} :
    IsLost (.settings fault) ↔ fault = .wrongLength ∨ fault = .noSplit := by
  cases fault <;> simp [IsLost, SettingsFault.typeMessage?]

theorem loses_isLost : Loses IsLost = Uneven := by
  funext custom
  rw [eq_iff_iff, ← settings_eq_wrongLength]
  constructor
  · rintro ⟨fault, failed, lost⟩
    obtain rfl | rfl := isLost_settings.mp lost
    · exact failed
    · exact absurd failed settings_ne_noSplit
  · exact fun failed => ⟨.wrongLength, failed, isLost_settings.mpr (.inl rfl)⟩

theorem configurationFrom_isLost (files : Files) (name : String) (source : ConfigurationSource) :
    (∃ failure, configurationFrom files name source = .error failure ∧ IsLost failure) ↔
      source.Escapes files := by
  cases source with
  | default =>
    obtain ⟨c, made⟩ := load_default files name
    refine iff_of_false ?_ (by rintro ⟨⟩)
    simp [configurationFrom, made]
  | ready configuration => exact iff_of_false (by simp [configurationFrom]) (by rintro ⟨⟩)
  | other kind =>
    refine iff_of_false ?_ (by rintro ⟨⟩)
    rintro ⟨failure, failed, lost⟩
    cases failed
    exact lost
  | given members =>
    rw [configurationFrom, load_given, ofSettings_over_defaults_loses, loses_isLost]
    exact ⟨.given, by rintro ⟨⟩; assumption⟩
  | file file =>
    rw [configurationFrom]
    by_cases named : file = ""
    · subst named
      obtain ⟨c, made⟩ := load_default files name
      change load files name .null (some "") = .ok c at made
      refine iff_of_false (by simp [made]) ?_
      rintro ⟨named, _⟩
      exact named rfl
    · rw [load_file_loses (fun _ => trivial) (fun _ => id) named, loses_isLost]
      exact ⟨.file named, by rintro ⟨⟩; assumption⟩

end Registry

/-- It ends well, or in a fault of one kind. -/
def EndsIn {α Fault : Type} (kind : Fault → Failure) (ended : Except Failure α) : Prop :=
  (∃ result, ended = .ok result) ∨ ∃ fault, ended = .error (kind fault)

theorem endsIn_iff {α Fault : Type} {kind : Fault → Failure} {ended : Except Failure α} :
    EndsIn kind ended ↔ ¬∃ failure, ended = .error failure ∧ ∀ fault, failure ≠ kind fault := by
  cases ended <;> simp [EndsIn]

namespace Registry

theorem createGenerator_endsIn (r : Registry) (files : Files) (language : String)
    (source : ConfigurationSource) :
    EndsIn .registry (r.createGenerator files language source) ↔
      ¬((∃ found, r.generatorClass language = .ok found) ∧ source.Escapes files) := by
  rw [EndsIn, generatorClass, createGenerator]
  cases resolved : r.resolve language with
  | error fault => simp
  | ok name =>
    cases held : r.class? name with
    | none => simp [held]
    | some found =>
      rw [← configurationFrom_isLost files name source]
      simp only [held]
      cases made : configurationFrom files name source with
      | error failure => simp [isLost_iff language]
      | ok configuration => cases created : found.create configuration <;> simp [created]

end Registry

/-- No settings can be made from a value. -/
def IsUnsettled (custom : Json) : Prop := ∃ fault, settings custom = .error fault

theorem load_file_endsIn (files : Files) (language name : String) :
    EndsIn .configuration (load files language .null (some name)) ↔
      ¬(name ≠ "" ∧ FileEscapes IsUnsettled files (.ofString name)) := by
  by_cases named : name = ""
  · subst named
    obtain ⟨c, made⟩ := load_default files language
    exact iff_of_true (.inl ⟨c, made⟩) (by simp)
  · have unset : Loses (fun failure => ∀ fault, failure ≠ .configuration fault) = IsUnsettled := by
      funext custom
      simp [Loses, IsUnsettled]
    rw [endsIn_iff, load_file_loses (by simp) (by simp) named, unset]
    simp [named]

/-- A file with one byte that no character begins with. -/
def garbled : Files where
  nodes := [(["gen.json"], .file (.bytes [0xff]))]

theorem readSettings_garbled :
    readSettings garbled (.ofString "gen.json") = .error (.value .undecodable) := by
  have bytes : garbled.read (.ofString "gen.json") = .ok (.bytes [0xff]) := rfl
  have garbage : (Content.bytes [0xff]).decode = .error ⟨0xff, 0, 1, .invalidStart⟩ := by
    simp [Content.decode, Utf8.decode, Utf8.decodeAt, Utf8.step, Except.map]
  have there : garbled.exists? (.ofString "gen.json") = true := rfl
  have json : (FilePath.ofString "gen.json").isJson = true := by decide +kernel
  simp [readSettings, there, json, bytes, garbage]

end OptionProtocol
