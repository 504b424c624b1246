import OptionProtocol.Handler.Encoding

/-! Reading options: values from texts, options from token sequences, and objects from
command lines. Objects hold options that may hold objects again, so reading an object is
given to the lower layers as a function. -/

set_option autoImplicit false

namespace OptionProtocol

/-- An assignment that a constraint turned down. -/
structure Rejection where
  flag : String
  value : Value
  deriving Repr

def Rejection.message (rejection : Rejection) : String :=
  "Rejected value for -" ++ rejection.flag ++ ": " ++
    (match rejection.value.literal with
     | .ok text => text
     | .error _ => "")

/-- The result of reading, and the assignments turned down on the way, in their order. -/
structure Attempt (α : Type) where
  result : Except OptionFault α
  rejected : List Rejection := []

namespace Attempt

def fail {α : Type} (fault : OptionFault) : Attempt α := { result := .error fault }

def done {α : Type} (value : α) : Attempt α := { result := .ok value }

/-- The same attempt after other assignments were turned down. -/
def following {α : Type} (attempt : Attempt α) (earlier : List Rejection) : Attempt α :=
  { attempt with rejected := earlier ++ attempt.rejected }

def bind {α β : Type} (attempt : Attempt α) (next : α → Attempt β) : Attempt β :=
  match attempt.result with
  | .ok value => (next value).following attempt.rejected
  | .error fault => { result := .error fault, rejected := attempt.rejected }

instance : Monad Attempt where
  pure := done
  bind := bind

end Attempt

/-- How the objects of a base are read from command lines. -/
abbrev ObjectReader := Option ClassId → Option String → String → Attempt Value

/-- The value of a kind that a text stands for. -/
def decode (readObject : ObjectReader) (raw : String) (kind : Kind) (flag : Option String)
    (base : Option ClassId) : Attempt Value :=
  match kind with
  | .integer | .long =>
      match Number.readInt? raw with
      | some n => .done (.int n)
      | none => .fail (.malformed flag (some raw) .unreadable)
  | .float | .double =>
      match Number.readFloat? raw with
      | some x => .done (.float x)
      | none => .fail (.malformed flag (some raw) .unreadable)
  | .text => .done (.text raw)
  | .path => .done (.path (.ofString raw))
  | .object => readObject base flag raw
  | .flag => .fail .flagDecoding

namespace TokenSequence

def noValue (flag : String) : OptionFault := .malformed (some flag) none .noValue

/-- The value of an option, or its default when it is absent. -/
def parse (readObject : ObjectReader) (s : TokenSequence) (flag : String) (default : Value)
    (kind : Kind) (base : Option ClassId) : Attempt Value × TokenSequence :=
  if kind = .flag then
    let (present, s) := s.takeFlag flag
    (.done (.bool present), s)
  else
    match s.takeValue flag with
    | .absent => (.done default, s)
    | .valueless => (.fail (noValue flag), s)
    | .value raw tokens => (decode readObject raw kind (some flag) base, ⟨tokens⟩)

/-- The values of all occurrences of an option, from left to right. -/
def collect (decodeItem : String → Attempt Value) (flag : String) (tokens : List Token) :
    Attempt (List Value) × List Token :=
  match _taken : takePair flag tokens with
  | .absent => (.done [], tokens)
  | .valueless => (.fail (noValue flag), tokens)
  | .value raw after =>
      let item := decodeItem raw
      match item.result with
      | .error fault => ({ item with result := .error fault }, after)
      | .ok value =>
          let (rest, left) := collect decodeItem flag after
          ({ result := rest.result.map (value :: ·),
             rejected := item.rejected ++ rest.rejected }, left)
termination_by freeCount tokens
decreasing_by have := freeCount_takePair _taken; omega

/-- A list of the items of a default; an absent default stays absent. -/
def copyDefault (default : Value) : Except OptionFault Value :=
  match default with
  | .absent => .ok .absent
  | default =>
      match default.items with
      | .ok items => .ok (.list items)
      | .error fault => .error (.ofValue fault)

/-- The values of an option that may occur often, or its default when it does not occur. -/
def parseArray (readObject : ObjectReader) (s : TokenSequence) (flag : String)
    (default : Value) (kind : Kind) (base : Option ClassId) : Attempt Value × TokenSequence :=
  if kind = .flag then (.fail .flagArray, s)
  else
    let (items, tokens) :=
      collect (fun raw => decode readObject raw kind (some flag) base) flag s.tokens
    let result := match items.result with
      | .error fault => .error fault
      | .ok [] => copyDefault default
      | .ok items => .ok (.list items)
    ({ result, rejected := items.rejected }, ⟨tokens⟩)

end TokenSequence

def OptionSpec.parse (spec : OptionSpec) (readObject : ObjectReader) (s : TokenSequence) :
    Attempt Value × TokenSequence :=
  if spec.isArray then s.parseArray readObject spec.flag spec.default spec.kind spec.base
  else s.parse readObject spec.flag spec.default spec.kind spec.base

/-- Assigning the options of one level: the row afterwards, the tokens, and what stopped it.
The options before the one that stopped it keep what they were assigned. -/
structure RowRun where
  row : List Value
  tokens : TokenSequence
  rejected : List Rejection := []
  fault : Option OptionFault := none

def RowRun.after (run : RowRun) (value : Value) (earlier : List Rejection) : RowRun :=
  { run with row := value :: run.row, rejected := earlier ++ run.rejected }

/-- Assign the options of a level in their order. A value that the constraint turns down
leaves the option as it is. -/
def assignRow (readObject : ObjectReader) :
    List OptionSpec → List Value → TokenSequence → RowRun
  | spec :: specs, old :: row, tokens =>
      let (attempt, tokens) := spec.parse readObject tokens
      match attempt.result with
      | .error fault =>
          { row := old :: row, tokens, rejected := attempt.rejected, fault := some fault }
      | .ok new =>
          match spec.accepts new with
          | .error fault =>
              { row := old :: row, tokens, rejected := attempt.rejected,
                fault := some (.ofValue fault) }
          | .ok true => (assignRow readObject specs row tokens).after new attempt.rejected
          | .ok false =>
              (assignRow readObject specs row tokens).after old
                (attempt.rejected ++ [⟨spec.flag, new⟩])
  | _, row, tokens => { row, tokens }

structure LevelsRun where
  rows : List (List Value)
  leftover : Except OptionFault (List String)
  rejected : List Rejection := []

/-- Assign the options of each level from what the levels before it left over. -/
def assignLevels (readObject : ObjectReader) :
    List Level → List (List Value) → List String → LevelsRun
  | level :: levels, row :: rows, tokens =>
      let run := assignRow readObject level.options row (.ofTexts tokens)
      match run.fault with
      | some fault => { rows := run.row :: rows, leftover := .error fault, rejected := run.rejected }
      | none =>
          let above := assignLevels readObject levels rows run.tokens.remaining
          { above with
            rows := run.row :: above.rows
            rejected := run.rejected ++ above.rejected }
  | _, rows, tokens => { rows, leftover := .ok tokens }

/-- What a class name refers to. A name of a relative module is a fault of its own. -/
def resolveClass (name : String) (flag : Option String) :
    Except OptionFault Catalogue.Referent :=
  match Catalogue.resolve name with
  | .ok referent => .ok referent
  | .error .unknown => .error (.malformed flag (some name) .unknownClass)
  | .error .emptyModule => .error (.ofValue .badValue)
  | .error .relativeModule => .error (.ofValue .wrongType)

/-- The class to make an object of, or the reason why there is none. -/
def Catalogue.Referent.instantiable : Catalogue.Referent → Except String ClassId
  | .classRef id =>
      match id.instantiationFault? with
      | some reason => .error reason
      | none => .ok id
  | .constant _ => .error "'str' object is not callable"
  | .property => .error "'property' object is not callable"
  | .moduleRef _ => .error "'module' object is not callable"

def Catalogue.Referent.derivesFrom : Catalogue.Referent → ClassId → Bool
  | .classRef id, base => id.derivesFrom base
  | _, _ => false

/-- Give a new object of a class its options; all of them have to be taken. -/
def configure (readObject : ObjectReader) (malformed : Malformation → OptionFault)
    (name : String) (id : ClassId) (options : List String) : Attempt Value :=
  if id.isHandler then
    let run := assignLevels readObject id.levels id.defaultRows options
    let result := match run.leftover with
      | .error fault => .error fault
      | .ok [] => .ok (.object id run.rows)
      | .ok leftover => .error (malformed (.illegalOptions name leftover))
    { result, rejected := run.rejected }
  else if options.isEmpty then .done id.fresh
  else .fail (malformed (.noOptionsAccepted name))

/-- Read an object from its command line, given how to read the objects inside. -/
def readObjectBy (inner : ObjectReader) : ObjectReader := fun base flag line =>
  let malformed := OptionFault.malformed flag (some line)
  if Text.isAllBlank line then .fail (malformed .emptyCommandLine)
  else
    match CommandLine.tokens line with
    | .error fault => .fail fault
    | .ok [] => .fail (.ofValue .outOfRange)
    | .ok (name :: options) =>
        match resolveClass name flag with
        | .error fault => .fail fault
        | .ok referent =>
            match base.filter fun base => !referent.derivesFrom base with
            | some base => .fail (malformed (.notSubclass name base))
            | none =>
                match referent.instantiable with
                | .error reason => .fail (malformed (.notInstantiable name reason))
                | .ok id => configure inner malformed name id options

/-- Reading objects nested to a depth. -/
def readObjectWithin : Nat → ObjectReader
  | 0 => fun _ _ _ => .fail (.ofValue .outOfRange)
  | depth + 1 => readObjectBy (readObjectWithin depth)

/-- Read an object from its command line. The command line of an object inside another one
is shorter than that of the other, so the length bounds the depth. -/
def readObject : ObjectReader := fun base flag line =>
  readObjectWithin (line.length + 1) base flag line

end OptionProtocol
