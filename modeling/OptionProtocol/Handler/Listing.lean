import OptionProtocol.Handler.Encoding

/-! Help on options: what each option is for and what it is when it is absent. -/

set_option autoImplicit false

namespace OptionProtocol

structure OptionDescription where
  description : String
  name : String
  argumentCount : Nat
  synopsis : String
  deriving DecidableEq, Repr

def OptionDescription.text (entry : OptionDescription) : String :=
  entry.synopsis ++ "\n" ++ entry.description

mutual

/-- A default value in a help text: items one after the other, handlers as command lines. -/
def formatDefault : Value → Except ValueFault String
  | .list items => (formatDefaults items).map (" ".intercalate ·)
  | .tuple items => (formatDefaults items).map (" ".intercalate ·)
  | .object id rows =>
      if id.isHandler then (Value.object id rows).commandLine else (Value.object id rows).plain
  | value => value.plain

def formatDefaults : List Value → Except ValueFault (List String)
  | [] => .ok []
  | item :: rest => do
      let first ← formatDefault item
      let more ← formatDefaults rest
      return first :: more

end

def describeOption (text : String) (default : Value) (flag : String) :
    Except ValueFault OptionDescription :=
  (formatDefault default).map fun default =>
    { description := "\t" ++ text ++ "\n\t(default: " ++ default ++ ")"
      name := flag
      argumentCount := 1
      synopsis := "-" ++ flag ++ " <value>" }

def describeFlag (text flag : String) : OptionDescription where
  description := "\t" ++ text
  name := flag
  argumentCount := 0
  synopsis := "-" ++ flag

def OptionSpec.describe (spec : OptionSpec) : Except ValueFault OptionDescription :=
  if spec.kind = .flag ∧ !spec.isArray then .ok (describeFlag spec.tip spec.flag)
  else describeOption spec.tip spec.default spec.flag

/-- The entries of the options of some levels. The list ends where a level does not list. -/
def describeLevels : List Level → Except ValueFault (List OptionDescription)
  | [] => .ok []
  | level :: levels => do
      let own ← if level.describes then level.options.mapM OptionSpec.describe else pure []
      let inherited ← describeLevels levels
      return own ++ inherited

/-- Entries one after the other, with an empty line between them. -/
def describeAll (entries : List OptionDescription) : String :=
  "\n\n".intercalate (entries.map OptionDescription.text)

end OptionProtocol
