/-! The classes whose objects options can hold, and how they derive from each other. -/

set_option autoImplicit false

namespace OptionProtocol

inductive ClassId where
  | optionHandler
  | kernel
  | gaussianKernel
  | polyKernel
  | notAKernel
  | baseClassifier
  | abstractLearner
  | ensemble
  | childLearner
  | tokenSequence
  | optionKind
  | optionDescription
  | optionError
  | malformedValueError
  deriving DecidableEq, Repr

namespace ClassId

def moduleName : ClassId → String
  | .optionHandler => "optionhandler.codec.handler"
  | .kernel | .gaussianKernel | .polyKernel | .notAKernel | .baseClassifier => "sample_handlers"
  | .abstractLearner => "gen_learner"
  | .ensemble => "gen_ensemble"
  | .childLearner => "gen_child"
  | .tokenSequence => "optionhandler.codec.tokens"
  | .optionKind | .optionDescription => "optionhandler.codec.options"
  | .optionError | .malformedValueError => "optionhandler.codec.errors"

def shortName : ClassId → String
  | .optionHandler => "OptionHandler"
  | .kernel => "Kernel"
  | .gaussianKernel => "GaussianKernel"
  | .polyKernel => "PolyKernel"
  | .notAKernel => "NotAKernel"
  | .baseClassifier => "BaseClassifier"
  | .abstractLearner => "AbstractLearner"
  | .ensemble => "Ensemble"
  | .childLearner => "ChildLearner"
  | .tokenSequence => "TokenSequence"
  | .optionKind => "OptionKind"
  | .optionDescription => "OptionDescription"
  | .optionError => "OptionError"
  | .malformedValueError => "MalformedValueError"

/-- The name under which the class is found again. -/
def name (id : ClassId) : String := id.moduleName ++ "." ++ id.shortName

/-- The class itself and the classes it derives from. -/
def lineage : ClassId → List ClassId
  | .kernel => [.kernel, .optionHandler]
  | .gaussianKernel => [.gaussianKernel, .kernel, .optionHandler]
  | .polyKernel => [.polyKernel, .kernel, .optionHandler]
  | .baseClassifier => [.baseClassifier, .optionHandler]
  | .abstractLearner => [.abstractLearner, .baseClassifier, .optionHandler]
  | .ensemble => [.ensemble, .optionHandler]
  | .childLearner => [.childLearner, .abstractLearner, .baseClassifier, .optionHandler]
  | .malformedValueError => [.malformedValueError, .optionError]
  | id => [id]

def derivesFrom (id base : ClassId) : Bool := id.lineage.contains base

/-- Objects of the class take and give options. -/
def isHandler (id : ClassId) : Bool := id.derivesFrom .optionHandler

/-- Why no object of the class can be made, for the classes that are made in other ways. -/
def instantiationFault? : ClassId → Option String
  | .optionHandler => some ("Can't instantiate abstract class OptionHandler with abstract " ++
      "methods get_options, list_options, set_options")
  | .optionKind => some "EnumType.__call__() missing 1 required positional argument: 'value'"
  | .optionDescription => some ("OptionDescription.__init__() missing 4 required positional " ++
      "arguments: 'description', 'name', 'num_arguments', and 'synopsis'")
  | .malformedValueError => some ("MalformedValueError.__init__() missing 2 required " ++
      "positional arguments: 'flag' and 'value'")
  | _ => none

theorem derivesFrom_self (id : ClassId) : id.derivesFrom id = true := by cases id <;> decide

theorem derivesFrom_trans {a b c : ClassId} (ab : a.derivesFrom b = true)
    (bc : b.derivesFrom c = true) : a.derivesFrom c = true := by
  revert ab bc
  cases a <;> cases b <;> cases c <;> decide

end ClassId

end OptionProtocol
