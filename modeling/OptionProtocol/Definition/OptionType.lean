import OptionProtocol.Definition.Fault
import OptionProtocol.Kind
import OptionProtocol.Name.Dotted
import OptionProtocol.Text.LetterCase

/-! Types of options in class definitions: kinds of values, classes of objects, and arrays
of either. -/

set_option autoImplicit false

namespace OptionProtocol

inductive ElementType where
  | scalar (kind : Kind)
  | object (className : String)
  deriving DecidableEq, Repr

/-- The type of an option: one element, or an array of elements. -/
structure OptionType where
  element : ElementType
  isArray : Bool := false
  deriving DecidableEq, Repr

namespace ElementType

def kind : ElementType → Kind
  | .scalar kind => kind
  | .object _ => .object

def className? : ElementType → Option String
  | .scalar _ => none
  | .object className => some className

def text : ElementType → String
  | .scalar kind => kind.name
  | .object className => className

end ElementType

namespace OptionType

def text (type : OptionType) : String :=
  if type.isArray then type.element.text ++ "[]" else type.element.text

def aliases : List (String × Kind) := [
  ("int", .integer), ("integer", .integer), ("long", .long), ("float", .float),
  ("double", .double), ("str", .text), ("string", .text), ("text", .text), ("path", .path),
  ("file", .path), ("bool", .flag), ("boolean", .flag), ("flag", .flag)]

def isAsciiIdentifier (s : List Char) : Bool :=
  match s with
  | [] => false
  | c :: rest =>
      (c.isAlpha || c == '_') && rest.all fun c => c.isAlphanum || c == '_'

/-- Two or more plain identifiers with dots between them. -/
def isClassName (s : List Char) : Bool :=
  let parts := Text.splitOn '.' s
  2 ≤ parts.length && parts.all isAsciiIdentifier

def arrayWord : List Char := "list[".toList

/-- The text of the items of an array type, if it is one. -/
def itemText? (s : List Char) : Option (List Char) :=
  if "[]".toList.isSuffixOf s then some (s.take (s.length - 2))
  else if arrayWord.isPrefixOf (Text.lower s) && "]".toList.isSuffixOf s then
    some ((s.drop 5).dropLast)
  else none

theorem length_itemText? {s item : List Char} (h : itemText? s = some item) :
    item.length < s.length := by
  unfold itemText? at h
  split at h
  · rename_i suffix
    have long := (List.isSuffixOf_iff_suffix.mp suffix).length_le
    simp only [Option.some.injEq] at h
    subst h
    simp at long ⊢
    omega
  · split at h
    · rename_i bounds
      simp only [Bool.and_eq_true] at bounds
      have long := (List.isSuffixOf_iff_suffix.mp bounds.2).length_le
      simp only [Option.some.injEq] at h
      subst h
      simp at long ⊢
      omega
    · simp at h

/-- The type that a text names. Blanks around it and around the items of an array are
skipped; arrays of arrays and of flags are not supported. -/
def read (written : List Char) : Except TypeFault OptionType :=
  let s := Text.trim Text.isBlank written
  if s.isEmpty then .error .missing
  else
    match _item : itemText? s with
    | some inside =>
        match read (Text.trim Text.isBlank inside) with
        | .error fault => .error fault
        | .ok type =>
            if type.isArray then .error (.nestedArray (String.ofList written))
            else if type.element.kind = .flag then
              .error (.flagArray (String.ofList written))
            else .ok { element := type.element, isArray := true }
    | none =>
        match aliases.lookup (String.ofList (Text.lower s)) with
        | some kind => .ok { element := .scalar kind }
        | none =>
            if isClassName s then .ok { element := .object (String.ofList s) }
            else .error (.unsupported (String.ofList written))
termination_by written.length
decreasing_by
  have shorter : inside.length < (Text.trim Text.isBlank written).length :=
    length_itemText? _item
  have outer := Text.length_trim_le Text.isBlank written
  have inner := Text.length_trim_le Text.isBlank inside
  omega

def parse (written : String) : Except TypeFault OptionType := read written.toList

end OptionType

end OptionProtocol
