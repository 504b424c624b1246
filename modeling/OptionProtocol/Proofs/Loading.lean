import OptionProtocol.Loading
import OptionProtocol.Proofs.Definition.NullCharacter

/-! Where the loading of a definition ends: in a definition, in a fault that has words, or in a
failure without words. For these there are four causes. -/

set_option autoImplicit false

namespace OptionProtocol

namespace Logged

variable {α : Type} {cause : Prop} {logged : Logged Failure α}

/-- It ended in a failure that has no words. -/
def Silent (logged : Logged Failure α) : Prop :=
  ∃ failure, logged.result = .error failure ∧ failure.message? = none

/-- The cause tells when it ends without words. Otherwise it ends well or in a fault of the
transfer. -/
inductive Ends (cause : Prop) (logged : Logged Failure α) : Prop where
  | ok {value : α} (ended : logged.result = .ok value) (without : ¬cause)
  | transfer {fault : TransferFault} (ended : logged.result = .error (.transfer fault))
      (without : ¬cause)
  | silent {failure : Failure} (ended : logged.result = .error failure)
      (wordless : failure.message? = none) (here : cause)

theorem Ends.silent_iff (ends : logged.Ends cause) : logged.Silent ↔ cause := by
  cases ends with
  | ok ended without => simp [Silent, ended, without]
  | transfer ended without => simp [Silent, ended, without, Failure.message?]
  | silent ended wordless here => exact iff_of_true ⟨_, ended, wordless⟩ here

/-- What was logged makes no difference. -/
theorem Ends.with_log (ends : logged.Ends cause) (log : List LogRecord) :
    Logged.Ends cause { logged with log } := by
  cases ends with
  | ok ended without => exact .ok ended without
  | transfer ended without => exact .transfer ended without
  | silent ended wordless here => exact .silent ended wordless here

theorem andThen_eq_ok {ε β : Type} {first : Logged ε α} {next : α → Logged ε β} {value : β} :
    (first.andThen next).result = .ok value ↔
      ∃ held, first.result = .ok held ∧ (next held).result = .ok value := by
  unfold andThen
  cases first.result <;> simp

end Logged

variable {files : Files} {web : Web} {path : FilePath} {url source : String} {parts : Url}

theorem jsonOfText_ends (path : FilePath) (text : String) :
    (jsonOfText path text).Ends (∃ count, Json.parse text = .error (.integerTooLong count)) := by
  unfold jsonOfText
  split
  · rename_i parsed
    exact .ok rfl (by simp [parsed])
  · rename_i count long
    exact .silent rfl rfl ⟨count, long⟩
  · rename_i fault other failed
    refine .transfer rfl ?_
    rintro ⟨count, long⟩
    exact other count (by simpa [failed] using long)

theorem jsonOfContent_ends (path : FilePath) (content : Content) :
    (jsonOfContent path content).Ends (∃ text count, content.decode = .ok text ∧
      Json.parse text = .error (.integerTooLong count)) := by
  unfold jsonOfContent
  cases content.decode with
  | error fault => exact .transfer rfl (by simp)
  | ok text => simpa using jsonOfText_ends path text

/-- A file holds JSON with an integer of more digits than are read. -/
def HasLongInteger (files : Files) (path : FilePath) : Prop :=
  ∃ content text count, files.read path = .ok content ∧ content.decode = .ok text ∧
    Json.parse text = .error (.integerTooLong count)

/-- The JSON value in a file, whatever its extension is. -/
def jsonOfFile (files : Files) (path : FilePath) : Logged Failure Json :=
  match files.read path with
  | .ok content => jsonOfContent path content
  | .error fault => refuse (.unreadable path fault)

theorem jsonOfFile_ends (files : Files) (path : FilePath) :
    (jsonOfFile files path).Ends (HasLongInteger files path) := by
  unfold jsonOfFile HasLongInteger
  cases files.read path with
  | error fault => exact .transfer rfl (by simp)
  | ok content => simpa using jsonOfContent_ends path content

theorem loadFile_eq (files : Files) (path : FilePath) :
    loadFile files path =
      if files.isFile path then
        if path.isJson then jsonOfFile files path
        else
          { jsonOfFile files path with
            log := ⟨.warning, "File does not have .json extension: " ++ path.text⟩ ::
              (jsonOfFile files path).log }
      else refuse (.fileNotFound path) := rfl

theorem isFile_iff :
    files.isFile path = true ↔ ∃ content, files.find? path = some (.file content) := by
  unfold Files.isFile
  cases files.find? path with
  | none => simp
  | some node => cases node <;> simp

theorem read_eq_ok {content : Content} :
    files.read path = .ok content ↔ files.find? path = some (.file content) := by
  unfold Files.read Files.find?
  cases files.locate path with
  | error cause => simp
  | ok place => cases held : files.node? place with
    | none => simp [held]
    | some node => cases node <;> simp [held]

theorem isFile_of_read {content : Content} (read : files.read path = .ok content) :
    files.isFile path = true :=
  isFile_iff.mpr ⟨content, read_eq_ok.mp read⟩

/-- All that counts for a load is the file that the path leads to. -/
theorem loadFile_congr {after : Files}
    (alike : ∀ content, after.find? path = some (.file content) ↔
      files.find? path = some (.file content)) :
    loadFile after path = loadFile files path := by
  cases there : files.isFile path with
  | true =>
    obtain ⟨content, held⟩ := isFile_iff.mp there
    have isFile : after.isFile path = true := isFile_iff.mpr ⟨content, (alike content).mpr held⟩
    have read : after.read path = files.read path := by
      rw [read_eq_ok.mpr held, read_eq_ok.mpr ((alike content).mpr held)]
    simp only [loadFile, there, isFile, read]
  | false =>
    have missing : after.isFile path = false := by
      rw [Bool.eq_false_iff, ne_eq, isFile_iff] at there ⊢
      simpa only [alike] using there
    simp only [loadFile, there, missing, Bool.false_eq_true, if_false]

theorem loadDefinition_congr {after : Files}
    (alike : ∀ given, Source.ofText? source = some (.file given) →
      loadFile after given = loadFile files given) :
    loadDefinition after web source = loadDefinition files web source := by
  unfold loadDefinition
  cases found : Source.ofText? source with
  | none => rfl
  | some given =>
    cases given with
    | web url parts => rfl
    | file path => simp only [loadSource, alike path found]

theorem loadFile_ends (files : Files) (path : FilePath) :
    (loadFile files path).Ends (HasLongInteger files path) := by
  rw [loadFile_eq]
  split
  · split
    · exact jsonOfFile_ends files path
    · exact (jsonOfFile_ends files path).with_log _
  · rename_i missing
    refine .transfer rfl ?_
    rintro ⟨content, _, _, read, _⟩
    exact missing (isFile_of_read read)

theorem jsonOfBody_ends (url body : String) : (jsonOfBody url body).Ends False := by
  unfold jsonOfBody
  split
  · exact .ok rfl not_false
  · exact .transfer rfl not_false
  · exact .transfer rfl not_false

theorem jsonOfAnswer_ends (url : String) (status : Int) (contentType body : String) :
    (jsonOfAnswer url status contentType body).Ends False := by
  simp only [jsonOfAnswer]
  split
  · exact .transfer rfl not_false
  · split
    · exact jsonOfBody_ends url body
    · exact (jsonOfBody_ends url body).with_log _

theorem loadUrl_ends (web : Web) (url : String) (parts : Url) :
    (loadUrl web url parts).Ends (parts.isComplete = true ∧ web url = .statusUnknown) := by
  unfold loadUrl
  cases complete : parts.isComplete with
  | false => exact .transfer rfl (by simp)
  | true =>
    cases replied : web url with
    | answer status contentType body =>
      simpa using jsonOfAnswer_ends url status contentType body
    | statusUnknown => exact .silent rfl rfl ⟨rfl, rfl⟩
    | _ => exact .transfer rfl (by simp)

/-- Why neither JSON nor words come from a source: an integer in its file is too long, or its
reply is an error that has no status. -/
def Source.IsMute (files : Files) (web : Web) : Source → Prop
  | .file path => HasLongInteger files path
  | .web url parts => parts.isComplete = true ∧ web url = .statusUnknown

theorem loadSource_ends (files : Files) (web : Web) (given : Source) :
    (loadSource files web given).Ends (given.IsMute files web) := by
  cases given with
  | file path => exact loadFile_ends files path
  | web url parts => exact loadUrl_ends web url parts

/-- Why the loading of a source ends in a failure without words. -/
inductive Escapes (files : Files) (web : Web) (source : String) : Prop where
  | noUrl (unread : Url.parse? source = none)
  | mute {given : Source} (found : Source.ofText? source = some given)
      (mute : given.IsMute files web)
  | nullCharacter {given : Source} {members : Members} {options : List Json} {option : Json}
      (found : Source.ofText? source = some given)
      (loaded : (loadSource files web given).result = .ok (.object members))
      (listed : Json.lookup? members "options" = some (.array options)) (member : option ∈ options)
      (null : Definition.OptionHasNull option)
      (stopped : Definition.ofMembers (some source) members = .error .nullCharacter)

/-- The ends of a load. -/
inductive LoadEnd (files : Files) (web : Web) (source : String) :
    Except Failure Definition → Prop where
  | loaded (d : Definition) : LoadEnd files web source (.ok d)
  | notRead (fault : TransferFault) : LoadEnd files web source (.error (.transfer fault))
  | invalid {fault : DefinitionFault} {message : String} (told : fault.message? = some message) :
      LoadEnd files web source (.error (.definition fault))
  | escaped {failure : Failure} (wordless : failure.message? = none)
      (escapes : Escapes files web source) : LoadEnd files web source (.error failure)

theorem definitionOfJson_ends {given : Source} {json : Json}
    (found : Source.ofText? source = some given)
    (loaded : (loadSource files web given).result = .ok json) :
    LoadEnd files web source (definitionOfJson source json).result := by
  cases json with
  | object members =>
    simp only [definitionOfJson, Definition.ofJson]
    cases read : Definition.ofMembers (some source) members with
    | ok made => exact .loaded made.1
    | error fault =>
      cases fault with
      | invalid context cause => exact .invalid rfl
      | unsupportedType context cause => exact .invalid rfl
      | nullCharacter =>
        obtain ⟨values, listed, value, member, null⟩ := Definition.optionHasNull_of_ofMembers read
        exact .escaped rfl (.nullCharacter found loaded listed member null read)
  | _ => exact .notRead _

theorem loadDefinition_ok {d : Definition}
    (loaded : (loadDefinition files web source).result = .ok d) :
    ∃ json log, Definition.ofJson (some source) json = .ok (d, log) := by
  unfold loadDefinition at loaded
  split at loaded
  · cases loaded
  · obtain ⟨json, _, read⟩ := Logged.andThen_eq_ok.mp loaded
    cases json with
    | object members =>
      simp only [definitionOfJson] at read
      split at read
      · rename_i ok
        cases read
        exact ⟨_, _, ok⟩
      · cases read
    | _ => cases read

/-- A load ends in a definition, in a fault of the transfer or of the definition that has
words, or in an escape. -/
theorem loadDefinition_ends (files : Files) (web : Web) (source : String) :
    LoadEnd files web source (loadDefinition files web source).result := by
  unfold loadDefinition
  split
  · rename_i unread
    exact .escaped rfl (.noUrl (by simpa [Source.ofText?] using unread))
  · rename_i given found
    simp only [Logged.andThen]
    cases loadSource_ends files web given with
    | ok loaded _ =>
      rw [loaded]
      exact definitionOfJson_ends found loaded
    | transfer ended _ =>
      rw [ended]
      exact .notRead _
    | silent ended wordless mute =>
      rw [ended]
      exact .escaped wordless (.mute found mute)

/-- These are all causes, and each of them is one. -/
theorem silent_loadDefinition : (loadDefinition files web source).Silent ↔
    Escapes files web source := by
  constructor
  · rintro ⟨failure, ended, wordless⟩
    have ends := loadDefinition_ends files web source
    rw [ended] at ends
    cases ends with
    | notRead fault => simp [Failure.message?] at wordless
    | invalid told => simp [Failure.message?, told] at wordless
    | escaped _ escapes => exact escapes
  · intro escapes
    cases escapes with
    | noUrl unread =>
      exact ⟨.value .badValue, by simp [loadDefinition, Source.ofText?, unread], rfl⟩
    | @mute given found mute =>
      obtain ⟨failure, ended, wordless⟩ := (loadSource_ends files web given).silent_iff.mpr mute
      exact ⟨failure, by simp [loadDefinition, found, Logged.andThen, ended], wordless⟩
    | nullCharacter found loaded _ _ _ stopped =>
      refine ⟨.definition .nullCharacter, ?_, rfl⟩
      simp [loadDefinition, found, Logged.andThen, loaded, definitionOfJson, Definition.ofJson,
        stopped]

end OptionProtocol
