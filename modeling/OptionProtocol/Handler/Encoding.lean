import OptionProtocol.Handler.Catalogue
import OptionProtocol.Handler.Fault
import OptionProtocol.TokenSequence

/-! Writing values: as literals, as command lines of objects, and as the tokens that set
the options of an object. -/

set_option autoImplicit false

namespace OptionProtocol

namespace Value

/-- Items in brackets; one item of a tuple is followed by a comma. -/
def bracketed (isTuple : Bool) (items : List String) : String :=
  match isTuple, items with
  | true, [item] => "(" ++ item ++ ",)"
  | true, items => "(" ++ ", ".intercalate items ++ ")"
  | false, items => "[" ++ ", ".intercalate items ++ "]"

def className : Value → String
  | .absent => "builtins.NoneType"
  | .bool _ => "builtins.bool"
  | .int _ => "builtins.int"
  | .float _ => "builtins.float"
  | .text _ => "builtins.str"
  | .path _ => "pathlib.PosixPath"
  | .list _ => "builtins.list"
  | .tuple _ => "builtins.tuple"
  | .object id _ => id.name

def intText (n : Int) : Except ValueFault String :=
  if Number.isWritable n then .ok (Number.intText n) else .error .badValue

/-- The text of a value of a kind, given how it is written plainly and as a command line. -/
def encodeBy (plain line : Unit → Except ValueFault String) (value : Value) (kind : Kind) :
    Except ValueFault String :=
  match kind with
  | .integer | .long =>
      match value.toInt with
      | .ok n => intText n
      | .error fault => .error fault
  | .float | .double => value.toFloat.map Binary64.text
  | .object => line ()
  | .text | .path | .flag => plain ()

/-- The value written plainly: texts and paths as they are, the others as literals. -/
def plainBy (literal : Unit → Except ValueFault String) : Value → Except ValueFault String
  | .text value => .ok value
  | .path value => .ok value.text
  | _ => literal ()

/-- How an object of a class shows when it is written plainly. Only kernels show their
command line. -/
def objectText (id : ClassId) (line : Unit → Except ValueFault String) :
    Except ValueFault String :=
  if id.derivesFrom .kernel then line ()
  else if id = .tokenSequence then .ok (TokenSequence.ofTexts []).text
  else if id = .optionError then .ok "OptionError()"
  else .ok ("<" ++ id.name ++ " object>")

def lineOf (id : ClassId) (tokens : Except ValueFault (List String)) :
    Except ValueFault String :=
  tokens.map fun tokens => CommandLine.join (id.name :: tokens)

mutual

def literal : Value → Except ValueFault String
  | .absent => .ok "None"
  | .bool value => .ok (if value then "True" else "False")
  | .int value => intText value
  | .float value => .ok value.text
  | .text value => .ok (Text.quoted value)
  | .path value => .ok ("PosixPath(" ++ Text.quoted value.text ++ ")")
  | .list items => (literals items).map (bracketed false)
  | .tuple items => (literals items).map (bracketed true)
  | .object id rows => objectText id fun _ => lineOf id (levelTokens id.levels rows)

def literals : List Value → Except ValueFault (List String)
  | [] => .ok []
  | item :: rest => do
      let first ← literal item
      let more ← literals rest
      return first :: more

def commandLine : Value → Except ValueFault String
  | .object id rows => lineOf id (levelTokens id.levels rows)
  | value => .ok (CommandLine.join [value.className])

/-- The tokens for the rows of all levels. -/
def levelTokens : List Level → List (List Value) → Except ValueFault (List String)
  | level :: levels, row :: rows => do
      let own ← rowTokens level.options row
      let inherited ← levelTokens levels rows
      return own ++ inherited
  | _, _ => .ok []

def rowTokens : List OptionSpec → List Value → Except ValueFault (List String)
  | spec :: specs, value :: values => do
      let own ←
        if spec.isArray then
          match value with
          | .list items => itemTokens spec.flag spec.kind items
          | .tuple items => itemTokens spec.flag spec.kind items
          | .text content => textTokens spec.flag spec.kind content.toList
          | .object .tokenSequence _ => .ok []
          | _ => .error .wrongType
        else if spec.kind = .flag then
          .ok (if value.isTruthy then [TokenSequence.announce spec.flag] else [])
        else
          (encodeBy (fun _ => plainBy (fun _ => literal value) value)
            (fun _ => commandLine value) value spec.kind).map
              fun text => [TokenSequence.announce spec.flag, text]
      let more ← rowTokens specs values
      return own ++ more
  | _, _ => .ok []

/-- One pair of tokens for each item. -/
def itemTokens (flag : String) (kind : Kind) : List Value → Except ValueFault (List String)
  | [] => .ok []
  | item :: items => do
      let text ← encodeBy (fun _ => plainBy (fun _ => literal item) item)
        (fun _ => commandLine item) item kind
      let more ← itemTokens flag kind items
      return TokenSequence.announce flag :: text :: more

/-- One pair of tokens for each character. -/
def textTokens (flag : String) (kind : Kind) : List Char → Except ValueFault (List String)
  | [] => .ok []
  | c :: rest => do
      let item := String.singleton c
      let text ← encodeBy (fun _ => .ok item) (fun _ => .ok "builtins.str") (.text item) kind
      let more ← textTokens flag kind rest
      return TokenSequence.announce flag :: text :: more

end

def plain (value : Value) : Except ValueFault String := value.plainBy fun _ => value.literal

def encode (value : Value) (kind : Kind) : Except ValueFault String :=
  value.encodeBy (fun _ => value.plain) (fun _ => value.commandLine) kind

end Value

/-- Tokens in the making: those written so far, and the fault that stopped the last step. -/
structure Written where
  tokens : List String
  fault : Option OptionFault := none
  deriving Repr

namespace Written

/-- Append the flag alone if the value is set. -/
def addFlag (tokens : List String) (flag : String) (value : Value) : Written :=
  { tokens := if value.isTruthy then tokens ++ [TokenSequence.announce flag] else tokens }

/-- Append the flag and the text of the value. The flag stays when the value has no text. -/
def add (tokens : List String) (flag : String) (value : Value) (kind : Kind) : Written :=
  if kind = .flag then addFlag tokens flag value
  else
    let tokens := tokens ++ [TokenSequence.announce flag]
    match value.encode kind with
    | .ok text => { tokens := tokens ++ [text] }
    | .error fault => { tokens, fault := some (.ofValue fault) }

def addItems (tokens : List String) (flag : String) (kind : Kind) : List Value → Written
  | [] => { tokens }
  | item :: rest =>
      let written := add tokens flag item kind
      if written.fault.isSome then written else addItems written.tokens flag kind rest

/-- Append a flag and a text for every item. -/
def addArray (tokens : List String) (flag : String) (value : Value) (kind : Kind) : Written :=
  if kind = .flag then { tokens, fault := some .flagArray }
  else
    match value.items with
    | .ok items => addItems tokens flag kind items
    | .error fault => { tokens, fault := some (.ofValue fault) }

end Written

end OptionProtocol
