import OptionProtocol.Json.Basic

/-! Writing JSON texts: indented by two places, every character that may stand in a string
as it is. -/

set_option autoImplicit false

namespace OptionProtocol.Json

def escapedChar (c : Char) : List Char :=
  match c with
  | '"' => ['\\', '"']
  | '\\' => ['\\', '\\']
  | '\n' => ['\\', 'n']
  | '\r' => ['\\', 'r']
  | '\t' => ['\\', 't']
  | '\x08' => ['\\', 'b']
  | '\x0c' => ['\\', 'f']
  | c => if c.toNat < 0x20 then '\\' :: 'u' :: Text.hexDigits 4 c.toNat else [c]

def stringText (s : String) : String :=
  "\"" ++ Text.over (·.flatMap escapedChar) s ++ "\""

def numberText : Binary64 → String
  | .nan => "NaN"
  | .infinity negative => if negative then "-Infinity" else "Infinity"
  | x => x.text

def lineBreak (depth : Nat) : String := "\n" ++ String.ofList (List.replicate (2 * depth) ' ')

/-- Parts on lines of their own between two brackets. -/
def block (opening closing : String) (depth : Nat) (parts : List String) : String :=
  if parts.isEmpty then opening ++ closing
  else opening ++ lineBreak (depth + 1) ++ ("," ++ lineBreak (depth + 1)).intercalate parts ++
    lineBreak depth ++ closing

mutual

def printAt (depth : Nat) : Json → String
  | .null => "null"
  | .bool value => if value then "true" else "false"
  | .int value => Number.intText value
  | .float value => numberText value
  | .text value => stringText value
  | .array items => block "[" "]" depth (printItems (depth + 1) items)
  | .object members => block "\x7b" "\x7d" depth (printMembers (depth + 1) members)

def printItems (depth : Nat) : List Json → List String
  | [] => []
  | item :: rest => printAt depth item :: printItems depth rest

def printMembers (depth : Nat) : List (String × Json) → List String
  | [] => []
  | (name, value) :: rest =>
      (stringText name ++ ": " ++ printAt depth value) :: printMembers depth rest

end

def print (value : Json) : String := printAt 0 value

end OptionProtocol.Json
