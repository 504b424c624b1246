import OptionProtocol.Expression.Grammar
import OptionProtocol.Expression.Literal
import OptionProtocol.Text.Basic

/-! Texts that are expressions. -/

set_option autoImplicit false

namespace OptionProtocol.Expression

/-- The literals of the lexemes are well formed, to a depth of expressions in formatted
literals. -/
def literalsValid : Nat → List Lexeme → Bool
  | 0, _ => false
  | depth + 1, lexemes =>
      literalsAgree lexemes && lexemes.all fun lexeme =>
        match lexeme with
        | .string literal =>
            match literal.expressions? with
            | none => false
            | some fields => fields.all fun field =>
                -- Line ends in a field count for nothing, as in any brackets.
                match lex ('(' :: field ++ [')']) with
                | none => false
                | some inner =>
                    literalsValid depth inner && isField (inner.drop 1).dropLast
        | _ => true

/-- A text without the blanks around it and without comments in front. -/
def source? (text : String) : Option (List Char) :=
  firstLine false false false
    (Text.normalizeLineEnds (Text.trim Text.isBlank text.toList))

/-- The text, blanks around it apart, is an expression. -/
def isValid (text : String) : Bool :=
  match source? text with
  | none => false
  | some s =>
      match lex s with
      | none => false
      | some lexemes => literalsValid (s.length + 1) lexemes && isExpressions lexemes

/-- A null character makes a text unreadable. -/
def isReadable (text : String) : Bool := !text.toList.contains '\x00'

end OptionProtocol.Expression
