import OptionProtocol.Definition.Reading
import OptionProtocol.Failure
import OptionProtocol.Logging
import OptionProtocol.Url

/-! Loading definitions from files and from the web. -/

set_option autoImplicit false

namespace OptionProtocol

inductive Reply where
  | answer (status : Int) (contentType : String) (body : String)
  | timeout
  | noConnection (reason : String)
  | failed (reason : String)
  | statusUnknown
  | invalid (reason : String)
  deriving DecidableEq, Repr

/-- The web: what comes back for each URL. -/
abbrev Web := String → Reply

inductive Source where
  | file (path : FilePath)
  | web (url : String) (parts : Url)
  deriving Repr

namespace Source

/-- A text is a file unless it is a URL with a scheme of the web. Texts that are no URL at all
are refused. -/
def ofText? (text : String) : Option Source :=
  (Url.parse? text).map fun parts =>
    if parts.isWeb then .web text parts else .file (.ofString text)

def request? : Source → Option String
  | .file _ => none
  | .web url parts => if parts.isComplete then some url else none

end Source

/-- A failure with a log record of the same words. -/
def refuse {α : Type} (fault : TransferFault) : Logged Failure α :=
  ⟨.error (.transfer fault), [⟨.error, fault.message⟩]⟩

def jsonOfText (path : FilePath) (text : String) : Logged Failure Json :=
  match Json.parse text with
  | .ok json => ⟨.ok json, []⟩
  | .error (.integerTooLong _) => ⟨.error (.value .badValue), []⟩
  | .error fault => refuse (.invalidJson path fault)

def jsonOfContent (path : FilePath) (content : Content) : Logged Failure Json :=
  match content.decode with
  | .ok text => jsonOfText path text
  | .error fault => refuse (.notUtf8 path fault)

/-- The JSON value in a file. Another extension than that of JSON is only warned of. -/
def loadFile (files : Files) (path : FilePath) : Logged Failure Json :=
  if files.isFile path then
    let loaded := match files.read path with
      | .ok content => jsonOfContent path content
      | .error fault => refuse (.unreadable path fault)
    if path.isJson then loaded
    else
      { loaded with
        log := ⟨.warning, "File does not have .json extension: " ++ path.text⟩ :: loaded.log }
  else refuse (.fileNotFound path)

def isErrorStatus (status : Int) : Bool := decide (400 ≤ status) && decide (status < 600)

def jsonOfBody (url body : String) : Logged Failure Json :=
  match Json.parse body with
  | .ok json => ⟨.ok json, []⟩
  | .error (.integerTooLong count) =>
      refuse (.invalidReply url (Json.Fault.integerTooLong count).message)
  | .error fault => refuse (.requestFailed url fault.message)

/-- A reply is JSON by its content type or by the name that was asked for. -/
def isJsonReply (url contentType : String) : Bool :=
  url.endsWith ".json" || 1 < (contentType.splitOn "application/json").length

def jsonOfAnswer (url : String) (status : Int) (contentType body : String) :
    Logged Failure Json :=
  if isErrorStatus status then refuse (.httpStatus url status)
  else
    let contentType := Text.lowered contentType
    let loaded := jsonOfBody url body
    if isJsonReply url contentType then loaded
    else
      { loaded with
        log := ⟨.warning, "URL " ++ url ++ " does not have JSON content type: " ++ contentType⟩
          :: loaded.log }

def loadUrl (web : Web) (url : String) (parts : Url) : Logged Failure Json :=
  if !parts.isComplete then
    ⟨.error (.transfer (.invalidUrl url)), [⟨.error, "Invalid URL format: " ++ url⟩]⟩
  else
    match web url with
    | .answer status contentType body => jsonOfAnswer url status contentType body
    | .timeout => refuse (.timeout url)
    | .noConnection reason =>
        { result := .error (.transfer (.noConnection url))
          log := [⟨.error, "Connection error for URL " ++ url ++ ": " ++ reason⟩] }
    | .failed reason => refuse (.requestFailed url reason)
    | .statusUnknown => ⟨.error (.value .noSuchMember), []⟩
    | .invalid reason => refuse (.invalidReply url reason)

def loadSource (files : Files) (web : Web) : Source → Logged Failure Json
  | .file path => loadFile files path
  | .web url parts => loadUrl web url parts

def definitionOfJson (source : String) (json : Json) : Logged Failure Definition :=
  match json with
  | .object _ =>
      match Definition.ofJson (some source) json with
      | .ok (definition, log) => ⟨.ok definition, log⟩
      | .error fault => ⟨.error (.definition fault), []⟩
  | json => ⟨.error (.transfer (.notAnObject source json.kindName)), []⟩

def loadDefinition (files : Files) (web : Web) (text : String) : Logged Failure Definition :=
  match Source.ofText? text with
  | none => ⟨.error (.value .badValue), []⟩
  | some source => (loadSource files web source).andThen (definitionOfJson text)

end OptionProtocol
