import OptionProtocol.Handler.Level

/-! The option handlers that command lines can name: the levels of each class, the child's
before its parent's. -/

set_option autoImplicit false

namespace OptionProtocol

namespace Catalogue

def gaussianKernel : Level where
  hasAccessors := false
  options := [
    { field := "gamma", flag := "gamma", kind := .double,
      default := .float (Binary64.ofRatio false 1 100), tip := "The gamma value." }]

def polyKernel : Level where
  hasAccessors := false
  describes := false
  options := [
    { field := "exponent", flag := "exponent", kind := .integer, default := .int 1 },
    { field := "lower_order", flag := "lower-order", kind := .flag, default := .bool false }]

def baseClassifier : Level where
  hasAccessors := false
  options := [
    { field := "debug", flag := "debug", kind := .flag, default := .bool false,
      tip := "Output debugging information." },
    { field := "seed", flag := "seed", kind := .integer, default := .int 1,
      tip := "The random number seed." }]

/-- A new object of a class with the given levels. -/
def fresh (id : ClassId) (levels : List Level) : Value :=
  .object id (levels.map Level.defaults)

def abstractLearner : Level where
  options := [
    { field := "iterations", flag := "iterations", kind := .integer, default := .int 10,
      tip := "Number of iterations." },
    { field := "max_steps", flag := "max-steps", kind := .long, default := .int 1000000,
      tip := "Step limit." },
    { field := "rate", flag := "rate", kind := .float,
      default := .float (Binary64.ofRatio false 1 2), constraint := some (.above 0),
      tip := "The learning rate." },
    { field := "label", flag := "label", kind := .text, default := .text "default label",
      tip := "The label." },
    { field := "model_file", flag := "model-file", kind := .path,
      default := .path ⟨.here, ["model.bin"]⟩, tip := "Model file." },
    { field := "normalize", flag := "normalize", kind := .flag, default := .bool false,
      tip := "Normalize data." },
    { field := "kernel", flag := "kernel", kind := .object, base := some .kernel,
      default := fresh .gaussianKernel [gaussianKernel], tip := "The kernel." },
    { field := "weights", flag := "weights", kind := .double, isArray := true,
      default := .list [.float (Binary64.ofRatio false 1 1), .float (Binary64.ofRatio false 2 1)],
      tip := "Class weights." }]

def ensemble : Level where
  options := [
    { field := "members", flag := "K", kind := .object, isArray := true,
      base := some .kernel, constraint := some (.lengthAtMost 3),
      default := .list [fresh .gaussianKernel [gaussianKernel], fresh .polyKernel [polyKernel]],
      tip := "Member kernels." },
    { field := "inner", flag := "inner", kind := .object, base := some .optionHandler,
      default := fresh .baseClassifier [baseClassifier], tip := "Inner handler." },
    { field := "names", flag := "n", kind := .text, isArray := true, default := .list [],
      tip := "Names." },
    { field := "search_path", flag := "I", kind := .path, isArray := true,
      default := .list [.path {}], tip := "Search path." },
    { field := "class_", flag := "class", kind := .integer, default := .int 0,
      constraint := some (.within 0 10), tip := "Class index." },
    { field := "options_", flag := "options", kind := .text, default := .text "",
      tip := "Ünit options." },
    { field := "verbose", flag := "v", kind := .flag, default := .bool true },
    { field := "folds", flag := "folds", kind := .long, isArray := true,
      default := .tuple [.int 2, .int 3], constraint := some (.eachAbove 1),
      tip := "It's \"folds\"." }]

def childLearner : Level where
  options := [
    { field := "rate2", flag := "rate", kind := .integer, default := .int (-1),
      tip := "Shadows the parent's flag." },
    { field := "child_seed", flag := "seed", kind := .text, default := .text "s",
      constraint := some (.notText ""), tip := "Seed text." },
    { field := "child_debug", flag := "debug", kind := .flag, default := .bool false,
      tip := "Child debug." }]

end Catalogue

def ClassId.levels : ClassId → List Level
  | .gaussianKernel => [Catalogue.gaussianKernel]
  | .polyKernel => [Catalogue.polyKernel]
  | .baseClassifier => [Catalogue.baseClassifier]
  | .abstractLearner => [Catalogue.abstractLearner, Catalogue.baseClassifier]
  | .ensemble => [Catalogue.ensemble]
  | .childLearner =>
      [Catalogue.childLearner, Catalogue.abstractLearner, Catalogue.baseClassifier]
  | _ => []

def ClassId.defaultRows (id : ClassId) : List (List Value) := id.levels.map Level.defaults

def ClassId.fresh (id : ClassId) : Value := .object id id.defaultRows

namespace Catalogue

/-- What a dotted name can refer to. -/
inductive Referent where
  | classRef (id : ClassId)
  | constant (text : String)
  | property
  | moduleRef (name : String)
  deriving DecidableEq, Repr

def modules : List (String × List (String × Referent)) := [
  ("sample_handlers",
    [("codec", .moduleRef "optionhandler.codec"), ("Kernel", .classRef .kernel),
     ("GaussianKernel", .classRef .gaussianKernel), ("PolyKernel", .classRef .polyKernel),
     ("NotAKernel", .classRef .notAKernel), ("BaseClassifier", .classRef .baseClassifier)]),
  ("gen_learner",
    [("logging", .moduleRef "logging"), ("pathlib", .moduleRef "pathlib"),
     ("sample_handlers", .moduleRef "sample_handlers"), ("codec", .moduleRef "optionhandler.codec"),
     ("BaseClassifier", .classRef .baseClassifier), ("AbstractLearner", .classRef .abstractLearner)]),
  ("gen_ensemble",
    [("logging", .moduleRef "logging"), ("pathlib", .moduleRef "pathlib"),
     ("optionhandler", .moduleRef "optionhandler"), ("sample_handlers", .moduleRef "sample_handlers"),
     ("codec", .moduleRef "optionhandler.codec"), ("Ensemble", .classRef .ensemble)]),
  ("gen_child",
    [("logging", .moduleRef "logging"), ("codec", .moduleRef "optionhandler.codec"),
     ("AbstractLearner", .classRef .abstractLearner), ("ChildLearner", .classRef .childLearner)]),
  ("optionhandler", [("codec", .moduleRef "optionhandler.codec")]),
  ("optionhandler.codec",
    [("errors", .moduleRef "optionhandler.codec.errors"),
     ("handler", .moduleRef "optionhandler.codec.handler"),
     ("options", .moduleRef "optionhandler.codec.options"),
     ("tokens", .moduleRef "optionhandler.codec.tokens"), ("OptionError", .classRef .optionError),
     ("MalformedValueError", .classRef .malformedValueError),
     ("OptionHandler", .classRef .optionHandler), ("TokenSequence", .classRef .tokenSequence),
     ("OptionKind", .classRef .optionKind), ("OptionDescription", .classRef .optionDescription)]),
  ("optionhandler.codec.errors",
    [("OptionError", .classRef .optionError), ("MalformedValueError", .classRef .malformedValueError)]),
  ("optionhandler.codec.handler", [("OptionHandler", .classRef .optionHandler)]),
  ("optionhandler.codec.options",
    [("MalformedValueError", .classRef .malformedValueError),
     ("OptionHandler", .classRef .optionHandler), ("TokenSequence", .classRef .tokenSequence),
     ("OptionKind", .classRef .optionKind), ("OptionDescription", .classRef .optionDescription)]),
  ("optionhandler.codec.tokens",
    [("MalformedValueError", .classRef .malformedValueError),
     ("TokenSequence", .classRef .tokenSequence)])]

/-- A member of the options of some levels: the constant of a flag, or the property of an
option that can be read alone. -/
def optionMember? (levels : List Level) (name : String) : Option Referent :=
  levels.findSome? fun level => level.options.findSome? fun spec =>
    if spec.constant = name then some (.constant spec.flag)
    else if level.hasAccessors ∧ spec.field = name then some .property
    else none

def Referent.member? (referent : Referent) (name : String) : Option Referent :=
  match referent with
  | .classRef id => optionMember? id.levels name
  | .moduleRef path => (modules.lookup path).bind (·.lookup name)
  | _ => none

/-- Follow names from a referent on. -/
def Referent.follow? : Referent → List String → Option Referent
  | referent, [] => some referent
  | referent, name :: rest => (referent.member? name).bind (·.follow? rest)

inductive ResolveFault where
  | unknown
  | emptyModule
  | relativeModule
  deriving DecidableEq, Repr

/-- Try the first `count` parts as a module, and fewer when there is no such module. The
first module found decides. -/
def resolveFrom (parts : List String) : Nat → Except ResolveFault Referent
  | 0 => .error .unknown
  | count + 1 =>
      let path := ".".intercalate (parts.take (count + 1))
      if path = "" then .error .emptyModule
      else if path.startsWith "." then .error .relativeModule
      else if (modules.lookup path).isSome then
        match (Referent.moduleRef path).follow? (parts.drop (count + 1)) with
        | some referent => .ok referent
        | none => .error .unknown
      else resolveFrom parts count

/-- What a dotted name refers to: the parts behind the longest module it begins with. -/
def resolve (name : String) : Except ResolveFault Referent :=
  let parts := Text.pieces '.' name
  resolveFrom parts (parts.length - 1)

end Catalogue

end OptionProtocol
