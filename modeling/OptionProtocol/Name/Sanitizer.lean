import OptionProtocol.Name.Case
import OptionProtocol.Number.Reading

/-! Sanitizing: names that are safe in generated code, different from each other and from
the words that mean something there. -/

set_option autoImplicit false

namespace OptionProtocol

/-- The words that no name may be, and the names given out so far. Requests are remembered
by one text each. -/
structure Sanitizer where
  reserved : List String := []
  builtins : List String := []
  given : List (String × String) := []
  used : List String := []
  deriving Repr

namespace Sanitizer

/-- The text under which a request is remembered. -/
def request (name : String) (style : NameCase) (suffix : String) : String :=
  name ++ "_" ++ style.name ++ "_" ++ suffix

def isPlain (c : Char) : Bool := c.isAlphanum || c == '_' || c == '-'

/-- The name as letters, digits, hyphens and underscores, beginning with no digit. -/
def clean (name : List Char) : List Char :=
  let kept := Text.trim (fun c => c == '_' || c == '-')
    (name.map fun c => if isPlain c then c else '_')
  match kept with
  | [] => "option".toList
  | c :: _ => if c.isDigit then '_' :: kept else kept

/-- The cleaned name in a style, beginning with no digit. -/
def spelled (style : NameCase) (name : String) : String :=
  Text.over (fun name =>
    match Name.inCase style (clean name) with
    | [] => []
    | c :: rest => if c.isDigit then '_' :: c :: rest else c :: rest) name

def isTaken (s : Sanitizer) (name : String) : Bool :=
  let lowered := Text.lowered name
  s.reserved.contains lowered || s.builtins.contains lowered

/-- The name followed by a number; the name itself for zero. -/
def numbered (name : String) (n : Nat) : String :=
  if n = 0 then name else name ++ Number.intText n

/-- The first numbered name that is not in use. One of the first `used.length + 1` is not. -/
def firstFree (used : List String) (name : String) : String :=
  let candidates := (List.range (used.length + 1)).map (numbered name)
  (candidates.find? fun candidate => !used.contains candidate).getD name

def resolve (s : Sanitizer) (name suffix : String) : String :=
  firstFree s.used (if s.isTaken name then name ++ suffix else name)

/-- A safe name for the request. A request made before gets the name it got before. -/
def sanitize (s : Sanitizer) (name : String) (style : NameCase) (suffix : String) :
    String × Sanitizer :=
  let key := request name style suffix
  match s.given.lookup key with
  | some answer => (answer, s)
  | none =>
      let answer := s.resolve (spelled style name) suffix
      (answer, { s with given := (key, answer) :: s.given, used := answer :: s.used })

def addUsed (s : Sanitizer) (name : String) : Sanitizer := { s with used := name :: s.used }

/-- Forget all names given out and all requests. -/
def reset (s : Sanitizer) : Sanitizer := { s with given := [], used := [] }

end Sanitizer

namespace Name

/-- The keywords of generated code, in small letters. -/
def keywords : List String := [
  "and", "as", "assert", "async", "await", "break", "class", "continue", "def", "del",
  "elif", "else", "except", "false", "finally", "for", "from", "global", "if", "import",
  "in", "is", "lambda", "none", "nonlocal", "not", "or", "pass", "raise", "return", "true",
  "try", "while", "with", "yield"]

/-- Built-in names that generated attributes do not hide. -/
def guardedBuiltins : List String := [
  "int", "float", "str", "bool", "list", "dict", "set", "tuple", "bytes", "object", "type",
  "property", "super", "len", "print", "id", "hash", "format", "iter", "next", "range",
  "min", "max", "sum", "filter", "map"]

/-- Names that every generated handler defines itself. -/
def protocolNames : List String := [
  "options", "default_options", "global_info", "list_options", "set_options", "get_options"]

def optionSanitizer : Sanitizer where
  reserved := keywords
  builtins := guardedBuiltins ++ protocolNames

end Name

end OptionProtocol
