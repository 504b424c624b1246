import OptionProtocol.CommandLine
import OptionProtocol.Handler.Value
import OptionProtocol.Text.Quoted

/-! What goes wrong when options are read, and the words for it. -/

set_option autoImplicit false

namespace OptionProtocol

/-- Why a token or command line is no value. -/
inductive Malformation where
  | unreadable
  | noValue
  | unbalanced (fault : CommandLine.SplitFault)
  | emptyCommandLine
  | unknownClass
  | notSubclass (name : String) (base : ClassId)
  | notInstantiable (name reason : String)
  | illegalOptions (name : String) (leftover : List String)
  | noOptionsAccepted (name : String)
  deriving DecidableEq, Repr

/-- A fault of reading or writing options. A malformed value comes with the flag it was read
for and with the text itself, as far as they are known. -/
inductive OptionFault where
  | malformed (flag value : Option String) (cause : Malformation)
  | flagArray
  | flagDecoding
  | ofValue (fault : ValueFault)
  deriving DecidableEq, Repr

/-- The words for a malformed value. -/
def Malformation.message (cause : Malformation) (flag value : Option String) : String :=
  match cause with
  | .unreadable =>
      "Malformed value for -" ++ flag.getD "None" ++ ": " ++
        (value.map Text.quoted).getD "None"
  | .noValue => "No value given for -" ++ flag.getD "None" ++ " option."
  | .unbalanced fault => "Cannot split options: " ++ fault.message
  | .emptyCommandLine => "Empty command line supplied!"
  | .unknownClass => "Unknown class: " ++ value.getD "None"
  | .notSubclass name base => "Class " ++ name ++ " is not a subclass of " ++ base.name
  | .notInstantiable name reason => "Failed to instantiate " ++ name ++ ": " ++ reason
  | .illegalOptions name leftover =>
      "Illegal options for " ++ name ++ ": " ++ CommandLine.join leftover
  | .noOptionsAccepted name => "Class " ++ name ++ " does not accept options"

/-- The words for a fault; those of a plain value are not fixed. -/
def OptionFault.message? : OptionFault → Option String
  | .malformed flag value cause => some (cause.message flag value)
  | .flagArray => some "Arrays of boolean flags are not supported"
  | .flagDecoding => some "Cannot decode values of kind flag"
  | .ofValue _ => none

def CommandLine.tokens (line : String) : Except OptionFault (List String) :=
  match CommandLine.split line with
  | .ok tokens => .ok tokens
  | .error fault => .error (.malformed none (some line) (.unbalanced fault))

end OptionProtocol
