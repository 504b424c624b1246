import OptionProtocol.Handler.Decoding
import OptionProtocol.Handler.Listing

/-! Option handlers at work: objects that take tokens, give tokens, and let single options
be read and assigned. -/

set_option autoImplicit false

namespace OptionProtocol

structure Handler where
  id : ClassId
  rows : List (List Value)

namespace Handler

def fresh (id : ClassId) : Handler := ⟨id, id.defaultRows⟩

def toValue (handler : Handler) : Value := .object handler.id handler.rows

/-- Take options; the tokens left over are the result. -/
def setOptions (handler : Handler) (tokens : List String) :
    Attempt (List String) × Handler :=
  let run := assignLevels readObject handler.id.levels handler.rows tokens
  ({ result := run.leftover, rejected := run.rejected }, { handler with rows := run.rows })

/-- The tokens that set the options to what they are. -/
def getOptions (handler : Handler) : Except ValueFault (List String) :=
  Value.levelTokens handler.id.levels handler.rows

def listOptions (handler : Handler) : Except ValueFault (List OptionDescription) :=
  describeLevels handler.id.levels

def commandLine (handler : Handler) : Except ValueFault String := handler.toValue.commandLine

/-- The class says nothing about itself; only generated classes ask for it to be told. -/
def globalInfo (handler : Handler) : ValueFault :=
  if handler.id.levels.any Level.hasAccessors then .notImplemented else .noSuchMember

/-- The option of a field, on the first level that lets it be read alone. -/
def accessor? (handler : Handler) (field : String) : Option OptionSpec :=
  handler.id.levels.findSome? fun level =>
    if level.hasAccessors then level.options.find? fun spec => spec.field == field else none

def valueIn? (field : String) : List OptionSpec → List Value → Option Value
  | spec :: specs, value :: values =>
      if spec.field = field then some value else valueIn? field specs values
  | _, _ => none

def valueAt? (field : String) : List Level → List (List Value) → Option Value
  | level :: levels, row :: rows =>
      match valueIn? field level.options row with
      | some value => some value
      | none => valueAt? field levels rows
  | _, _ => none

def putIn (field : String) (new : Value) : List OptionSpec → List Value → List Value
  | spec :: specs, value :: values =>
      if spec.field = field then new :: values else value :: putIn field new specs values
  | _, values => values

def putAt (field : String) (new : Value) : List Level → List (List Value) → List (List Value)
  | level :: levels, row :: rows =>
      if level.options.any fun spec => spec.field == field then
        putIn field new level.options row :: rows
      else row :: putAt field new levels rows
  | _, rows => rows

def get (handler : Handler) (field : String) : Except ValueFault Value :=
  match handler.accessor? field, valueAt? field handler.id.levels handler.rows with
  | some _, some value => .ok value
  | _, _ => .error .noSuchMember

def getDefault (handler : Handler) (field : String) : Except ValueFault Value :=
  match handler.accessor? field with
  | some spec => .ok spec.default
  | none => .error .noSuchMember

def tip (handler : Handler) (field : String) : Except ValueFault String :=
  match handler.accessor? field with
  | some spec => .ok spec.tip
  | none => .error .noSuchMember

/-- Assign an option if its constraint allows it; tells whether it was assigned. -/
def set (handler : Handler) (field : String) (value : Value) : Attempt Bool × Handler :=
  match handler.accessor? field with
  | none => (.fail (.ofValue .noSuchMember), handler)
  | some spec =>
      match spec.accepts value with
      | .error fault => (.fail (.ofValue fault), handler)
      | .ok true =>
          (.done true, { handler with rows := putAt field value handler.id.levels handler.rows })
      | .ok false => ({ result := .ok false, rejected := [⟨spec.flag, value⟩] }, handler)

end Handler

end OptionProtocol
