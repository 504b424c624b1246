import OptionProtocol.Expression.Lexeme

/-! The grammar of expressions. Each rule reads from a list of lexemes that begins with
what the rule describes, and gives the lexemes that follow. -/

set_option autoImplicit false

namespace OptionProtocol.Expression

/-- The lexemes after a symbol that has to come next. -/
def expect (symbol : String) : List Lexeme → Option (List Lexeme)
  | .operator next :: rest => if next = symbol then some rest else none
  | _ => none

def expectWord (word : String) : List Lexeme → Option (List Lexeme)
  | .keyword next :: rest => if next = word then some rest else none
  | _ => none

def nextIs (symbol : String) (s : List Lexeme) : Bool := (expect symbol s).isSome

/-- A loop of a comprehension begins here. -/
def beginsLoop : List Lexeme → Bool
  | .keyword "for" :: _ => true
  | .keyword "async" :: _ => true
  | _ => false

/-- A name is assigned to inside an expression. -/
def beginsAssignment : List Lexeme → Bool
  | .name :: .operator ":=" :: _ => true
  | _ => false

def isString : Lexeme → Bool
  | .string _ => true
  | _ => false

/-- The binary operators below comparisons, from those that bind least. -/
def binaryOperators : List (List String) := [
  ["|"], ["^"], ["&"], ["<<", ">>"], ["+", "-"], ["*", "/", "//", "%", "@"]]

def comparison? : List Lexeme → Option (List Lexeme)
  | .operator symbol :: rest =>
      if ["==", "!=", "<=", "<", ">=", ">"].contains symbol then some rest else none
  | .keyword "not" :: .keyword "in" :: rest => some rest
  | .keyword "in" :: rest => some rest
  | .keyword "is" :: .keyword "not" :: rest => some rest
  | .keyword "is" :: rest => some rest
  | _ => none

/-- What arguments may still follow: all of them, those after a keyword argument, or those
after an unpacked mapping. -/
inductive ArgumentPhase where
  | positional
  | keyword
  | mapping
  deriving DecidableEq, Repr

structure ParameterPhase where
  any : Bool := false
  defaulted : Bool := false
  slashed : Bool := false
  starred : Bool := false
  /-- A star stands alone, and a parameter has to follow it. -/
  bare : Bool := false

mutual

def expression : Nat → List Lexeme → Option (List Lexeme)
  | 0, _ => none
  | fuel + 1, s =>
      match s with
      | .keyword "lambda" :: rest => do
          let rest ← parameters fuel {} rest
          expression fuel rest
      | _ => do
          let rest ← disjunction fuel s
          match expectWord "if" rest with
          | none => some rest
          | some rest => do
              let rest ← disjunction fuel rest
              let rest ← expectWord "else" rest
              expression fuel rest

def namedExpression : Nat → List Lexeme → Option (List Lexeme)
  | 0, _ => none
  | fuel + 1, s =>
      match s with
      | .name :: .operator ":=" :: rest => expression fuel rest
      | _ => (expression fuel s).filter fun rest => !nextIs ":=" rest

def disjunction : Nat → List Lexeme → Option (List Lexeme)
  | 0, _ => none
  | fuel + 1, s => do
      let rest ← conjunction fuel s
      match expectWord "or" rest with
      | some rest => disjunction fuel rest
      | none => some rest

def conjunction : Nat → List Lexeme → Option (List Lexeme)
  | 0, _ => none
  | fuel + 1, s => do
      let rest ← inversion fuel s
      match expectWord "and" rest with
      | some rest => conjunction fuel rest
      | none => some rest

def inversion : Nat → List Lexeme → Option (List Lexeme)
  | 0, _ => none
  | fuel + 1, s =>
      match expectWord "not" s with
      | some rest => inversion fuel rest
      | none => comparisonChain fuel s

def comparisonChain : Nat → List Lexeme → Option (List Lexeme)
  | 0, _ => none
  | fuel + 1, s => do
      let rest ← operation fuel binaryOperators s
      match comparison? rest with
      | some rest => comparisonChain fuel rest
      | none => some rest

/-- Operands with the operators of the given levels between them. -/
def operation : Nat → List (List String) → List Lexeme → Option (List Lexeme)
  | 0, _, _ => none
  | fuel + 1, [], s => factor fuel s
  | fuel + 1, symbols :: levels, s => do
      let rest ← operation fuel levels s
      match rest with
      | .operator symbol :: after =>
          if symbols.contains symbol then operation fuel (symbols :: levels) after
          else some rest
      | _ => some rest

def factor : Nat → List Lexeme → Option (List Lexeme)
  | 0, _ => none
  | fuel + 1, s =>
      match s with
      | .operator "+" :: rest => factor fuel rest
      | .operator "-" :: rest => factor fuel rest
      | .operator "~" :: rest => factor fuel rest
      | _ => do
          let rest ← primary fuel ((expectWord "await" s).getD s)
          match expect "**" rest with
          | some rest => factor fuel rest
          | none => some rest

def primary : Nat → List Lexeme → Option (List Lexeme)
  | 0, _ => none
  | fuel + 1, s => do
      let rest ← atom fuel s
      trailers fuel rest

/-- One attribute, call or subscription after a value; none if there is no such thing. -/
def trailer : Nat → List Lexeme → Option (List Lexeme)
  | 0, _ => none
  | fuel + 1, s =>
      match s with
      | .operator "." :: .name :: rest => some rest
      | .operator "(" :: rest => arguments fuel true .positional rest
      | .operator "[" :: rest => slices fuel true rest
      | _ => none

def beginsTrailer : List Lexeme → Bool
  | .operator "." :: _ => true
  | .operator "(" :: _ => true
  | .operator "[" :: _ => true
  | _ => false

def trailers : Nat → List Lexeme → Option (List Lexeme)
  | 0, _ => none
  | fuel + 1, s =>
      if beginsTrailer s then do
        let rest ← trailer fuel s
        trailers fuel rest
      else some s

def atom : Nat → List Lexeme → Option (List Lexeme)
  | 0, _ => none
  | fuel + 1, s =>
      match s with
      | .name :: rest => some rest
      | .number :: rest => some rest
      | .keyword "True" :: rest => some rest
      | .keyword "False" :: rest => some rest
      | .keyword "None" :: rest => some rest
      | .string _ :: rest => some (rest.dropWhile isString)
      | .operator "..." :: rest => some rest
      | .operator "(" :: rest => parenthesized fuel rest
      | .operator "[" :: rest => bracketed fuel rest
      | .operator "\x7b" :: rest => braced fuel rest
      | _ => none

/-- A starred operand or an expression. -/
def item : Nat → List Lexeme → Option (List Lexeme)
  | 0, _ => none
  | fuel + 1, s =>
      match expect "*" s with
      | some rest => operation fuel binaryOperators rest
      | none => namedExpression fuel s

/-- Items with commas behind all but, maybe, the last, up to the closing bracket. -/
def items : Nat → String → List Lexeme → Option (List Lexeme)
  | 0, _, _ => none
  | fuel + 1, closing, s =>
      match expect closing s with
      | some rest => some rest
      | none => do
          let rest ← item fuel s
          match expect "," rest with
          | some rest => items fuel closing rest
          | none => expect closing rest

/-- What follows the first item of a display: more items, loops, or the closing bracket. -/
def afterFirst : Nat → String → List Lexeme → Option (List Lexeme)
  | 0, _, _ => none
  | fuel + 1, closing, s =>
      if beginsLoop s then do
        let rest ← loops fuel s
        expect closing rest
      else
        match expect "," s with
        | some rest => items fuel closing rest
        | none => expect closing s

def parenthesized : Nat → List Lexeme → Option (List Lexeme)
  | 0, _ => none
  | fuel + 1, s =>
      match s with
      | .operator ")" :: rest => some rest
      | .keyword "yield" :: .keyword "from" :: rest => do
          let rest ← expression fuel rest
          expect ")" rest
      | .keyword "yield" :: .operator ")" :: rest => some rest
      | .keyword "yield" :: rest => yielded fuel rest
      | .operator "*" :: rest => do
          let rest ← operation fuel binaryOperators rest
          let rest ← expect "," rest
          items fuel ")" rest
      | _ => do
          let rest ← namedExpression fuel s
          afterFirst fuel ")" rest

/-- The values of a yield, up to the closing bracket. -/
def yielded : Nat → List Lexeme → Option (List Lexeme)
  | 0, _ => none
  | fuel + 1, s => do
      let rest ← match expect "*" s with
        | some rest => operation fuel binaryOperators rest
        | none => expression fuel s
      match expect "," rest with
      | none => expect ")" rest
      | some rest =>
          match expect ")" rest with
          | some rest => some rest
          | none => yielded fuel rest

def bracketed : Nat → List Lexeme → Option (List Lexeme)
  | 0, _ => none
  | fuel + 1, s =>
      if nextIs "]" s || nextIs "*" s then items fuel "]" s
      else do
        let rest ← namedExpression fuel s
        afterFirst fuel "]" rest

def braced : Nat → List Lexeme → Option (List Lexeme)
  | 0, _ => none
  | fuel + 1, s =>
      if nextIs "\x7d" s || nextIs "**" s then entries fuel s
      else if nextIs "*" s then items fuel "\x7d" s
      else do
        let rest ← namedExpression fuel s
        match if beginsAssignment s then none else expect ":" rest with
        | none => afterFirst fuel "\x7d" rest
        | some rest => do
            let rest ← expression fuel rest
            if beginsLoop rest then
              let rest ← loops fuel rest
              expect "\x7d" rest
            else
              match expect "," rest with
              | some rest => entries fuel rest
              | none => expect "\x7d" rest

/-- Entries of a dictionary, up to the closing brace. -/
def entries : Nat → List Lexeme → Option (List Lexeme)
  | 0, _ => none
  | fuel + 1, s =>
      match expect "\x7d" s with
      | some rest => some rest
      | none => do
          let rest ← match expect "**" s with
            | some rest => operation fuel binaryOperators rest
            | none => do
                let rest ← expression fuel s
                let rest ← expect ":" rest
                expression fuel rest
          match expect "," rest with
          | some rest => entries fuel rest
          | none => expect "\x7d" rest

def loops : Nat → List Lexeme → Option (List Lexeme)
  | 0, _ => none
  | fuel + 1, s => do
      let rest ← expectWord "for" ((expectWord "async" s).getD s)
      let rest ← targets fuel rest
      let rest ← expectWord "in" rest
      let rest ← disjunction fuel rest
      let rest ← conditions fuel rest
      if beginsLoop rest then loops fuel rest else some rest

def conditions : Nat → List Lexeme → Option (List Lexeme)
  | 0, _ => none
  | fuel + 1, s =>
      match expectWord "if" s with
      | none => some s
      | some rest => do
          let rest ← disjunction fuel rest
          conditions fuel rest

def targets : Nat → List Lexeme → Option (List Lexeme)
  | 0, _ => none
  | fuel + 1, s => do
      let rest ← starredTarget fuel s
      match expect "," rest with
      | none => some rest
      | some rest =>
          if (expectWord "in" rest).isSome then some rest else targets fuel rest

def starredTarget : Nat → List Lexeme → Option (List Lexeme)
  | 0, _ => none
  | fuel + 1, s =>
      match expect "*" s with
      | some rest => if nextIs "*" rest then none else starredTarget fuel rest
      | none => target fuel s

/-- An attribute or item of any value, or something made of names. -/
def target : Nat → List Lexeme → Option (List Lexeme)
  | 0, _ => none
  | fuel + 1, s => do
      let rest ← atom fuel s
      if beginsTrailer rest then targetTrailers fuel rest
      else
        match s with
        | .name :: rest => some rest
        | .operator "(" :: rest => targetTuple fuel true rest
        | .operator "[" :: rest => targetList fuel rest
        | _ => none

/-- Trailers the last of which is no call. -/
def targetTrailers : Nat → List Lexeme → Option (List Lexeme)
  | 0, _ => none
  | fuel + 1, s => do
      let rest ← trailer fuel s
      if beginsTrailer rest then targetTrailers fuel rest
      else if nextIs "(" s then none
      else some rest

/-- Targets in round brackets. A single one is not starred and needs no comma. -/
def targetTuple : Nat → Bool → List Lexeme → Option (List Lexeme)
  | 0, _, _ => none
  | fuel + 1, isFirst, s =>
      match expect ")" s with
      | some rest => some rest
      | none => do
          let rest ← starredTarget fuel s
          match expect "," rest with
          | some rest => targetTuple fuel false rest
          | none => if isFirst && nextIs "*" s then none else expect ")" rest

def targetList : Nat → List Lexeme → Option (List Lexeme)
  | 0, _ => none
  | fuel + 1, s =>
      match expect "]" s with
      | some rest => some rest
      | none => do
          let rest ← starredTarget fuel s
          match expect "," rest with
          | some rest => targetList fuel rest
          | none => expect "]" rest

/-- Arguments of a call, up to the closing bracket. A generator stands alone. -/
def arguments : Nat → Bool → ArgumentPhase → List Lexeme → Option (List Lexeme)
  | 0, _, _, _ => none
  | fuel + 1, isFirst, phase, s =>
      let next (phase : ArgumentPhase) (rest : List Lexeme) :=
        match expect "," rest with
        | some rest => arguments fuel false phase rest
        | none => expect ")" rest
      match s with
      | .operator ")" :: rest => some rest
      | .operator "**" :: rest => (expression fuel rest).bind (next .mapping)
      | .operator "*" :: rest =>
          if phase = .mapping then none else (expression fuel rest).bind (next phase)
      | .name :: .operator "=" :: rest =>
          (expression fuel rest).bind
            (next (if phase = .positional then .keyword else phase))
      | _ =>
          if phase ≠ .positional then none
          else do
            let rest ← namedExpression fuel s
            if isFirst && beginsLoop rest then
              let rest ← loops fuel rest
              expect ")" rest
            else next .positional rest

/-- Indices and slices, up to the closing bracket. -/
def slices : Nat → Bool → List Lexeme → Option (List Lexeme)
  | 0, _, _ => none
  | fuel + 1, isFirst, s =>
      if !isFirst && nextIs "]" s then expect "]" s
      else do
        let rest ← slice fuel s
        match expect "," rest with
        | some rest => slices fuel false rest
        | none => expect "]" rest

def slice : Nat → List Lexeme → Option (List Lexeme)
  | 0, _ => none
  | fuel + 1, s =>
      match expect "*" s, expect ":" s with
      | some rest, _ => expression fuel rest
      | none, some rest => sliceBounds fuel rest
      | none, none => do
          let rest ← namedExpression fuel s
          match if beginsAssignment s then none else expect ":" rest with
          | some rest => sliceBounds fuel rest
          | none => some rest

/-- What follows the first colon of a slice. -/
def sliceBounds : Nat → List Lexeme → Option (List Lexeme)
  | 0, _ => none
  | fuel + 1, s => do
      let absent (s : List Lexeme) := nextIs ":" s || nextIs "," s || nextIs "]" s
      let rest ← if absent s then some s else expression fuel s
      match expect ":" rest with
      | none => some rest
      | some rest => if absent rest then some rest else expression fuel rest

def parameters : Nat → ParameterPhase → List Lexeme → Option (List Lexeme)
  | 0, _, _ => none
  | fuel + 1, phase, s =>
      let next (phase : ParameterPhase) (rest : List Lexeme) :=
        match expect "," rest with
        | some rest => parameters fuel phase rest
        | none => expect ":" rest
      match s with
      | .operator ":" :: rest => if phase.bare then none else some rest
      | .operator "/" :: rest =>
          if phase.any && !phase.slashed && !phase.starred then
            next { phase with slashed := true } rest
          else none
      | .operator "*" :: .operator "," :: rest =>
          if phase.starred then none
          else parameters fuel { phase with starred := true, bare := true } rest
      | .operator "*" :: .name :: rest =>
          if phase.starred then none else next { phase with starred := true } rest
      | .operator "**" :: .name :: rest =>
          if phase.bare then none else expect ":" ((expect "," rest).getD rest)
      | .name :: .operator "=" :: rest => do
          let rest ← expression fuel rest
          next { phase with any := true, defaulted := true, bare := false } rest
      | .name :: rest =>
          if phase.defaulted && !phase.starred then none
          else next { phase with any := true, bare := false } rest
      | _ => none

end

/-- Expressions with commas between them, and nothing but line ends behind. -/
def expressions : Nat → List Lexeme → Bool
  | 0, _ => false
  | fuel + 1, s =>
      match expression fuel s with
      | none => false
      | some rest =>
          let ends (s : List Lexeme) := s.all (· == .newline)
          match expect "," rest with
          | none => ends rest
          | some rest => ends rest || expressions fuel rest

/-- The deepest chain of rules for a number of lexemes. -/
def ruleDepth (s : List Lexeme) : Nat := 32 * (s.length + 1)

/-- The lexemes are an expression. -/
def isExpressions (s : List Lexeme) : Bool := expressions (ruleDepth s) s

/-- The lexemes, in brackets, are a value. -/
def isField (s : List Lexeme) : Bool :=
  let s := .operator "(" :: s ++ [.operator ")"]
  atom (ruleDepth s) s == some []

end OptionProtocol.Expression
