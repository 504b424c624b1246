/-! Reading UTF-8, with the place and the reason of the first fault. -/

set_option autoImplicit false

namespace OptionProtocol.Utf8

inductive Reason where
  | invalidStart
  | invalidContinuation
  | unexpectedEnd
  deriving DecidableEq, Repr

def Reason.message : Reason → String
  | .invalidStart => "invalid start byte"
  | .invalidContinuation => "invalid continuation byte"
  | .unexpectedEnd => "unexpected end of data"

/-- The bytes from `start` up to, but not including, `stop` form no character; `byte` is
the first of them. -/
structure Fault where
  byte : UInt8
  start : Nat
  stop : Nat
  reason : Reason
  deriving DecidableEq, Repr

def Fault.message (fault : Fault) : String :=
  if fault.stop = fault.start + 1 then
    let hex := String.ofList (Nat.toDigits 16 fault.byte.toNat)
    let padded := if fault.byte < 16 then "0" ++ hex else hex
    "'utf-8' codec can't decode byte 0x" ++ padded ++ " in position " ++
      toString fault.start ++ ": " ++ fault.reason.message
  else
    "'utf-8' codec can't decode bytes in position " ++ toString fault.start ++ "-" ++
      toString (fault.stop - 1) ++ ": " ++ fault.reason.message

/-- What the bytes at one place hold. A malformed character covers `width` bytes; a
truncated one covers all that is left. -/
inductive Step where
  | char (c : Char) (width : Nat)
  | malformed (width : Nat) (reason : Reason)
  | truncated
  deriving Repr

def isContinuation (b : UInt8) : Bool := 0x80 ≤ b && b < 0xC0

/-- The second byte may follow the first: it continues it, and the two begin neither an
overlong form nor a surrogate nor a code point beyond the last one. -/
def mayFollow (first second : UInt8) : Bool :=
  isContinuation second &&
    (if first = 0xE0 then 0xA0 ≤ second
     else if first = 0xED then second < 0xA0
     else if first = 0xF0 then 0x90 ≤ second
     else if first = 0xF4 then second < 0x90
     else true)

/-- The payload of a first byte followed by continuation bytes. -/
def assemble (first : Nat) (more : List UInt8) : Char :=
  Char.ofNat (more.foldl (fun n b => n * 64 + (b.toNat - 0x80)) first)

def step (first : UInt8) (rest : List UInt8) : Step :=
  if first < 0x80 then .char (Char.ofNat first.toNat) 1
  else if first < 0xC2 then .malformed 1 .invalidStart
  else if first < 0xE0 then
    match rest with
    | second :: _ =>
        if mayFollow first second then .char (assemble (first.toNat - 0xC0) [second]) 2
        else .malformed 1 .invalidContinuation
    | [] => .truncated
  else if first < 0xF0 then
    match rest with
    | [] => .truncated
    | second :: rest =>
        if !mayFollow first second then .malformed 1 .invalidContinuation
        else match rest with
          | [] => .truncated
          | third :: _ =>
              if isContinuation third then
                .char (assemble (first.toNat - 0xE0) [second, third]) 3
              else .malformed 2 .invalidContinuation
  else if first < 0xF5 then
    match rest with
    | [] => .truncated
    | second :: rest =>
        if !mayFollow first second then .malformed 1 .invalidContinuation
        else match rest with
          | [] => .truncated
          | third :: rest =>
              if !isContinuation third then .malformed 2 .invalidContinuation
              else match rest with
                | [] => .truncated
                | fourth :: _ =>
                    if isContinuation fourth then
                      .char (assemble (first.toNat - 0xF0) [second, third, fourth]) 4
                    else .malformed 3 .invalidContinuation
  else .malformed 1 .invalidStart

/-- Decode the bytes that stand at `position`. -/
def decodeAt (position : Nat) : List UInt8 → Except Fault (List Char)
  | [] => .ok []
  | first :: rest =>
      match step first rest with
      | .char c width =>
          (decodeAt (position + width) (rest.drop (width - 1))).map (c :: ·)
      | .malformed width reason => .error ⟨first, position, position + width, reason⟩
      | .truncated =>
          .error ⟨first, position, position + (first :: rest).length, .unexpectedEnd⟩
termination_by bytes => bytes.length
decreasing_by simp only [List.length_drop, List.length_cons]; omega

def decode (bytes : List UInt8) : Except Fault String :=
  (decodeAt 0 bytes).map String.ofList

end OptionProtocol.Utf8
