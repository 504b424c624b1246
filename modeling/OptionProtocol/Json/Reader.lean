import OptionProtocol.Json.Basic

/-! Reading JSON texts. Besides the standard values, `NaN` and the infinities are read.
A fault names its cause and its place. -/

set_option autoImplicit false

namespace OptionProtocol.Json

inductive Expected where
  | value
  | propertyName
  | colon
  | comma
  deriving DecidableEq, Repr

inductive SyntaxCause where
  | expecting (what : Expected)
  | unterminatedString
  | controlCharacter
  | invalidEscape
  | invalidUnicodeEscape
  | extraData
  | byteOrderMark
  deriving DecidableEq, Repr

def SyntaxCause.message : SyntaxCause → String
  | .expecting .value => "Expecting value"
  | .expecting .propertyName => "Expecting property name enclosed in double quotes"
  | .expecting .colon => "Expecting ':' delimiter"
  | .expecting .comma => "Expecting ',' delimiter"
  | .unterminatedString => "Unterminated string starting at"
  | .controlCharacter => "Invalid control character at"
  | .invalidEscape => "Invalid \\escape"
  | .invalidUnicodeEscape => "Invalid \\uXXXX escape"
  | .extraData => "Extra data"
  | .byteOrderMark => "Unexpected UTF-8 BOM (decode using utf-8-sig)"

/-- A fault inside the text: `rest` is what follows the place of the fault. An integer of
too many digits is a fault of the value and not of the syntax. -/
inductive ScanFault where
  | malformed (cause : SyntaxCause) (rest : List Char)
  | integerTooLong (digitCount : Nat)

abbrev Read (α : Type) := α × List Char

def fail {α : Type} (cause : SyntaxCause) (rest : List Char) : Except ScanFault (Read α) :=
  .error (.malformed cause rest)

def isSpace (c : Char) : Bool := c = ' ' || c = '\t' || c = '\n' || c = '\r'

def skipSpace (s : List Char) : List Char := s.dropWhile isSpace

def hexValue? (c : Char) : Option Nat :=
  if c.isDigit then some (c.toNat - 0x30)
  else if 'a' ≤ c ∧ c ≤ 'f' then some (c.toNat - 0x57)
  else if 'A' ≤ c ∧ c ≤ 'F' then some (c.toNat - 0x37)
  else none

/-- The code unit of four hexadecimal digits. Something has to follow them. -/
def unit? : List Char → Option (Nat × List Char)
  | a :: b :: c :: d :: next :: rest => do
      let a ← hexValue? a
      let b ← hexValue? b
      let c ← hexValue? c
      let d ← hexValue? d
      return (((a * 16 + b) * 16 + c) * 16 + d, next :: rest)
  | _ => none

def isHighSurrogate (unit : Nat) : Bool := 0xD800 ≤ unit && unit < 0xDC00

def isLowSurrogate (unit : Nat) : Bool := 0xDC00 ≤ unit && unit < 0xE000

/-- The character of a code unit; a surrogate alone stands for no character. -/
def charOfUnit (unit : Nat) : Char :=
  if isHighSurrogate unit || isLowSurrogate unit then '\uFFFD' else Char.ofNat unit

/-- The character of an escape by number, two of which may make one character. `s` follows
the letter that announces the digits, and `atLetter` begins with that letter. -/
def unicodeEscape (atLetter s : List Char) : Except ScanFault (Read Char) :=
  match unit? s with
  | none => fail .invalidUnicodeEscape atLetter
  | some (high, rest) =>
      match rest with
      | '\\' :: 'u' :: more =>
          if isHighSurrogate high && 4 < more.length then
            match unit? more with
            | none => fail .invalidUnicodeEscape ('u' :: more)
            | some (low, rest') =>
                if isLowSurrogate low then
                  .ok (Char.ofNat (0x10000 + (high - 0xD800) * 0x400 + (low - 0xDC00)), rest')
                else .ok (charOfUnit high, rest)
          else .ok (charOfUnit high, rest)
      | _ => .ok (charOfUnit high, rest)

def letterEscape? (c : Char) : Option Char :=
  match c with
  | '"' => some '"'
  | '\\' => some '\\'
  | '/' => some '/'
  | 'b' => some '\x08'
  | 'f' => some '\x0c'
  | 'n' => some '\n'
  | 'r' => some '\r'
  | 't' => some '\t'
  | _ => none

/-- The characters up to the closing quote. `opening` begins with the opening quote. -/
def stringBody (opening : List Char) : Nat → List Char → Except ScanFault (Read (List Char))
  | 0, _ => fail .unterminatedString opening
  | _, [] => fail .unterminatedString opening
  | fuel + 1, c :: rest =>
      if c = '"' then .ok ([], rest)
      else if c = '\\' then
        match rest with
        | [] => fail .unterminatedString opening
        | 'u' :: digits => do
            let (escaped, rest) ← unicodeEscape rest digits
            let (more, rest) ← stringBody opening fuel rest
            return (escaped :: more, rest)
        | letter :: after =>
            match letterEscape? letter with
            | none => fail .invalidEscape (c :: rest)
            | some escaped => do
                let (more, rest) ← stringBody opening fuel after
                return (escaped :: more, rest)
      else if c.toNat < 0x20 then fail .controlCharacter (c :: rest)
      else do
        let (more, rest) ← stringBody opening fuel rest
        return (c :: more, rest)

def string (s : List Char) : Except ScanFault (Read String) := do
  let (body, rest) ← stringBody ('"' :: s) (s.length + 1) s
  return (String.ofList body, rest)

/-- Digits of a whole number: a zero alone, or digits that do not begin with one. -/
def wholeDigits? (s : List Char) : Option (List Char × List Char) :=
  match s with
  | '0' :: rest => some (['0'], rest)
  | c :: _ => if c.isDigit then some (Number.spanDigits s) else none
  | [] => none

/-- A point with the digits behind it; nothing is read when no digit follows. -/
def fractionDigits? (s : List Char) : Option (List Char × List Char) :=
  match s with
  | '.' :: rest =>
      let (digits, rest) := Number.spanDigits rest
      if digits.isEmpty then none else some (digits, rest)
  | _ => none

/-- A power of ten; nothing is read when it has no digit. -/
def power? (s : List Char) : Option (Int × List Char) :=
  match s with
  | mark :: rest =>
      if mark = 'e' ∨ mark = 'E' then
        let (negative, rest) := Number.signed rest
        let (digits, rest) := Number.spanDigits rest
        if digits.isEmpty then none
        else
          let size : Int := Number.ofDigits digits
          some (if negative then -size else size, rest)
      else none
  | [] => none

/-- A minus, if there is one, and the rest. -/
def minus : List Char → Bool × List Char
  | '-' :: rest => (true, rest)
  | rest => (false, rest)

/-- A number. It is an integer when it has neither a fraction nor a power. -/
def number (s : List Char) : Except ScanFault (Read Json) :=
  let (negative, unsigned) := minus s
  match wholeDigits? unsigned with
  | none => fail (.expecting .value) s
  | some (whole, rest) =>
      let fraction := fractionDigits? rest
      let rest := (fraction.map Prod.snd).getD rest
      let power := power? rest
      let rest := (power.map Prod.snd).getD rest
      if fraction.isNone && power.isNone then
        if Number.greatestDigitCount < whole.length then .error (.integerTooLong whole.length)
        else
          let size : Int := Number.ofDigits whole
          .ok (.int (if negative then -size else size), rest)
      else
        let digits := (fraction.map Prod.fst).getD []
        let power := (power.map Prod.fst).getD 0
        .ok (.float (Binary64.ofDecimal negative (Number.ofDigits (whole ++ digits))
          (power - digits.length)), rest)

def words : List (List Char × Json) := [
  ("null".toList, .null),
  ("true".toList, .bool true),
  ("false".toList, .bool false),
  ("NaN".toList, .float .nan),
  ("Infinity".toList, .float (.infinity false)),
  ("-Infinity".toList, .float (.infinity true))]

mutual

def value : Nat → List Char → Except ScanFault (Read Json)
  | 0, s => fail (.expecting .value) s
  | fuel + 1, s =>
      match s with
      | [] => fail (.expecting .value) s
      | '"' :: rest => do
          let (content, rest) ← string rest
          return (.text content, rest)
      | '[' :: rest =>
          match skipSpace rest with
          | ']' :: rest => .ok (.array [], rest)
          | rest => do
              let (items, rest) ← items fuel rest
              return (.array items, rest)
      | '\x7b' :: rest =>
          match skipSpace rest with
          | '\x7d' :: rest => .ok (.object [], rest)
          | rest => do
              let (members, rest) ← members fuel rest
              return (.object (putAll [] members), rest)
      | _ =>
          match words.find? (fun word => word.1.isPrefixOf s) with
          | some (name, value) => .ok (value, s.drop name.length)
          | none => number s

/-- One item or more, up to the closing bracket. -/
def items : Nat → List Char → Except ScanFault (Read (List Json))
  | 0, s => fail (.expecting .value) s
  | fuel + 1, s => do
      let (item, rest) ← value fuel s
      match skipSpace rest with
      | ']' :: rest => return ([item], rest)
      | ',' :: rest =>
          let (more, rest) ← items fuel (skipSpace rest)
          return (item :: more, rest)
      | rest => fail (.expecting .comma) rest

/-- One member or more, up to the closing brace. -/
def members : Nat → List Char → Except ScanFault (Read (List (String × Json)))
  | 0, s => fail (.expecting .value) s
  | fuel + 1, s =>
      match s with
      | '"' :: rest => do
          let (name, rest) ← string rest
          match skipSpace rest with
          | ':' :: rest =>
              let (value, rest) ← value fuel (skipSpace rest)
              match skipSpace rest with
              | '\x7d' :: rest => return ([(name, value)], rest)
              | ',' :: rest =>
                  let (more, rest) ← members fuel (skipSpace rest)
                  return ((name, value) :: more, rest)
              | rest => fail (.expecting .comma) rest
          | rest => fail (.expecting .colon) rest
      | _ => fail (.expecting .propertyName) s

end

def document (s : List Char) : Except ScanFault Json :=
  if s.head? = some '\uFEFF' then .error (.malformed .byteOrderMark s)
  else
    let start := skipSpace s
    match value (start.length + 1) start with
    | .error fault => .error fault
    | .ok (read, rest) =>
        match skipSpace rest with
        | [] => .ok read
        | rest => .error (.malformed .extraData rest)

inductive Fault where
  | malformed (cause : SyntaxCause) (line column position : Nat)
  | integerTooLong (digitCount : Nat)
  deriving DecidableEq, Repr

def Fault.message : Fault → String
  | .malformed cause line column position =>
      cause.message ++ ": line " ++ toString line ++ " column " ++ toString column ++
        " (char " ++ toString position ++ ")"
  | .integerTooLong digitCount =>
      "Exceeds the limit (" ++ toString Number.greatestDigitCount ++ " digits) for integer " ++
        "string conversion: value has " ++ toString digitCount ++
        " digits; use sys.set_int_max_str_digits() to increase the limit"

/-- Lines and columns count from one. -/
def Fault.at (cause : SyntaxCause) (before : List Char) : Fault :=
  .malformed cause (before.count '\n' + 1)
    ((before.reverse.takeWhile (· ≠ '\n')).length + 1) before.length

def parse (text : String) : Except Fault Json :=
  let s := text.toList
  match document s with
  | .ok read => .ok read
  | .error (.integerTooLong count) => .error (.integerTooLong count)
  | .error (.malformed cause rest) => .error (.at cause (s.take (s.length - rest.length)))

end OptionProtocol.Json
