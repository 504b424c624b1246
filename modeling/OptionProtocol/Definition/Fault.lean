import OptionProtocol.Json.Basic

/-! What is wrong with a class definition, and the words for it. -/

set_option autoImplicit false

namespace OptionProtocol

inductive TypeFault where
  | missing
  | nestedArray (written : String)
  | flagArray (written : String)
  | unsupported (written : String)
  deriving DecidableEq, Repr

def TypeFault.message : TypeFault → String
  | .missing => "missing or empty option type"
  | .nestedArray written => "nested arrays are not supported: " ++ written
  | .flagArray written => "arrays of boolean flags are not supported: " ++ written
  | .unsupported written => "unsupported option type: " ++ written

inductive DefinitionCause where
  | notAnObject (kind : String)
  | missingField (name : String)
  | invalidName
  | invalidClassName (name : String)
  | notDotted (key value : String)
  | notText (key : String)
  | notTextList (key : String)
  | optionsNotList
  | optionNotObject
  | invalidProperty (value : Json)
  | invalidFlag (value : Json)
  | emptyExpression (key : String)
  | invalidExpression (key text : String)
  | duplicateProperty (name : String)
  | duplicateFlag (flag : String)
  | rootNotBool
  | noSuperclass

def DefinitionCause.message : DefinitionCause → String
  | .notAnObject kind => "definition must be a JSON object, got " ++ kind
  | .missingField name => "missing required field '" ++ name ++ "'"
  | .invalidName => "name is not a valid identifier"
  | .invalidClassName name => "class name '" ++ name ++ "' is not a valid identifier"
  | .notDotted key value => "'" ++ key ++ "' is not a dotted name: " ++ Text.quoted value
  | .notText key => "'" ++ key ++ "' must be a string"
  | .notTextList key => "'" ++ key ++ "' must be a list of strings"
  | .optionsNotList => "'options' must be a list"
  | .optionNotObject => "option must be a JSON object"
  | .invalidProperty value =>
      "property must be an identifier starting with a lower-case letter: " ++ value.literal
  | .invalidFlag value =>
      "flag must be a non-empty string without leading dash or whitespace: " ++ value.literal
  | .emptyExpression key => "'" ++ key ++ "' must be a non-empty expression"
  | .invalidExpression key text => "invalid " ++ key ++ " expression " ++ Text.quoted text
  | .duplicateProperty name => "duplicate property '" ++ name ++ "'"
  | .duplicateFlag flag => "duplicate flag '" ++ flag ++ "'"
  | .rootNotBool => "'root' must be a boolean"
  | .noSuperclass => "non-root class requires a superclass"

/-- A fault of a definition and the place in it. An expression with a null character is no
text at all and has no place. -/
inductive DefinitionFault where
  | invalid (context : String) (cause : DefinitionCause)
  | unsupportedType (context : String) (cause : TypeFault)
  | nullCharacter

/-- The fault has words; a null character has none. -/
def DefinitionFault.message? : DefinitionFault → Option String
  | .invalid context cause => some (context ++ cause.message)
  | .unsupportedType context cause => some (context ++ cause.message)
  | .nullCharacter => none

end OptionProtocol
