/-! Log records, and results that come with them. -/

set_option autoImplicit false

namespace OptionProtocol

inductive LogLevel where
  | warning
  | error
  deriving DecidableEq, Repr

def LogLevel.name : LogLevel → String
  | .warning => "WARNING"
  | .error => "ERROR"

structure LogRecord where
  level : LogLevel
  message : String
  deriving DecidableEq, Repr

/-- A result and what was logged on the way to it, also when it is a failure. -/
structure Logged (ε α : Type) where
  result : Except ε α
  log : List LogRecord := []

/-- Go on with a result; the records of both parts are kept in their order. -/
def Logged.andThen {ε α β : Type} (first : Logged ε α) (next : α → Logged ε β) : Logged ε β :=
  match first.result with
  | .error fault => ⟨.error fault, first.log⟩
  | .ok value => let second := next value; ⟨second.result, first.log ++ second.log⟩

end OptionProtocol
