import OptionProtocol.Configuration.Basic
import OptionProtocol.Definition.Fault
import OptionProtocol.Files
import OptionProtocol.Handler.Value
import OptionProtocol.Json.Reader

/-! What stops the generation of code, and the words for it. -/

set_option autoImplicit false

namespace OptionProtocol

/-- The kind of fault that a value which gives no settings is for its user. -/
def SettingsFault.kind : SettingsFault → ValueFault
  | .wrongLength => .badValue
  | .noSplit => .noSuchMember
  | .notIterable _ | .noPair _ | .unhashable _ => .wrongType

inductive ConfigurationFault where
  | notFound (path : FilePath)
  | notJson (path : FilePath)
  | invalidJson (path : FilePath) (fault : Json.Fault)
  | unreadable (path : FilePath) (fault : OsFault)
  | notAnObject (path : FilePath)
  | unsaved (path : FilePath) (fault : OsFault)

def ConfigurationFault.message : ConfigurationFault → String
  | .notFound path => "Configuration file not found: " ++ path.text
  | .notJson path => "Configuration file must be JSON: " ++ path.text
  | .invalidJson path fault =>
      "Invalid JSON in configuration file " ++ path.text ++ ": " ++ fault.message
  | .unreadable path fault =>
      "Failed to load configuration file " ++ path.text ++ ": " ++ fault.message
  | .notAnObject path => "Configuration file must contain a JSON object: " ++ path.text
  | .unsaved path fault =>
      "Failed to save configuration to " ++ path.text ++ ": " ++ fault.message

inductive TransferFault where
  | fileNotFound (path : FilePath)
  | invalidJson (path : FilePath) (fault : Json.Fault)
  | notUtf8 (path : FilePath) (fault : Utf8.Fault)
  | unreadable (path : FilePath) (fault : OsFault)
  | invalidUrl (url : String)
  | timeout (url : String)
  | noConnection (url : String)
  | httpStatus (url : String) (status : Int)
  | requestFailed (url reason : String)
  | invalidReply (url reason : String)
  | notAnObject (source kind : String)
  | noDirectory (path : FilePath)
  | noNewDirectory (path : FilePath) (fault : OsFault)
  | unwritten (path : FilePath) (fault : OsFault)

def TransferFault.message : TransferFault → String
  | .fileNotFound path => "File not found: " ++ path.text
  | .invalidJson path fault => "Invalid JSON in file " ++ path.text ++ ": " ++ fault.message
  | .notUtf8 path fault =>
      "File " ++ path.text ++ " is not UTF-8 encoded: " ++ fault.message
  | .unreadable path fault => "Error reading file " ++ path.text ++ ": " ++ fault.message
  | .invalidUrl url => "Invalid URL: " ++ url
  | .timeout url => "Request timeout for URL: " ++ url
  | .noConnection url => "Connection error for URL: " ++ url
  | .httpStatus url status =>
      "HTTP error " ++ Number.intText status ++ " for URL: " ++ url
  | .requestFailed url reason => "Request error for URL " ++ url ++ ": " ++ reason
  | .invalidReply url reason => "Invalid JSON response from URL " ++ url ++ ": " ++ reason
  | .notAnObject source kind =>
      "Definition in " ++ source ++ " must be a JSON object, got " ++ kind
  | .noDirectory path => "Output directory does not exist: " ++ path.text
  | .noNewDirectory path fault =>
      "Failed to create directory " ++ path.text ++ ": " ++ fault.message
  | .unwritten path fault => "Failed to write " ++ path.text ++ ": " ++ fault.message

structure BaseClash where
  first : String
  second : String
  name : String
  deriving DecidableEq, Repr

def BaseClash.message (clash : BaseClash) : String :=
  "Base classes " ++ clash.first ++ " and " ++ clash.second ++ " share the name " ++ clash.name

/-- Why a template is not rendered. Templates without a name are strings. -/
inductive TemplateFault where
  | unknown (name : String)
  | notInDirectory (name : String) (directory : FilePath)
  | unreadable (name : String) (fault : Utf8.Fault)
  | undefined (name : Option String) (item : String)
  deriving DecidableEq, Repr

def TemplateFault.reason : TemplateFault → String
  | .unknown name => name
  | .notInDirectory name directory =>
      Text.quoted name ++ " not found in search path: " ++ Text.quoted directory.text
  | .unreadable _ fault => fault.message
  | .undefined _ item => "'" ++ item ++ "' is undefined"

def TemplateFault.message (fault : TemplateFault) : String :=
  let subject := match fault with
    | .unknown name | .notInDirectory name _ | .unreadable name _ | .undefined (some name) _ =>
        name
    | .undefined none _ => "string"
  "Failed to render template " ++ subject ++ ": " ++ fault.reason

inductive RegistryFault where
  | noGenerator
  | aliasIsLanguage (name : String)
  | aliasTaken (name language : String)
  | unknownLanguage (name : String) (available : List String)
  | invalidConfiguration (kind : String)
  | notCreated (language reason : String)
  deriving DecidableEq, Repr

def RegistryFault.message : RegistryFault → String
  | .noGenerator => "Generator class must inherit from CodeGenerator"
  | .aliasIsLanguage name => "Alias '" ++ name ++ "' conflicts with existing primary language"
  | .aliasTaken name language =>
      "Alias '" ++ name ++ "' already points to '" ++ language ++ "'"
  | .unknownLanguage name available =>
      "No generator registered for language: " ++ name ++ ". Available: " ++
        ", ".intercalate available
  | .invalidConfiguration kind => "Invalid config type: <class '" ++ kind ++ "'>"
  | .notCreated language reason =>
      "Failed to create " ++ language ++ " generator: " ++ reason

inductive Failure where
  | value (fault : ValueFault)
  | settings (fault : SettingsFault)
  | definition (fault : DefinitionFault)
  | transfer (fault : TransferFault)
  | configuration (fault : ConfigurationFault)
  | bases (clash : BaseClash)
  | template (fault : TemplateFault)
  | registry (fault : RegistryFault)
  | markup

namespace Failure

/-- The words for a failure. Values that are no use at all get none, and neither does markup
with a tag that closes nothing. -/
def message? : Failure → Option String
  | .value _ => none
  | .settings _ => none
  | .markup => none
  | .definition fault => fault.message?
  | .transfer fault => some fault.message
  | .configuration fault => some fault.message
  | .bases clash => some clash.message
  | .template fault => some fault.message
  | .registry fault => some fault.message

end Failure

end OptionProtocol
