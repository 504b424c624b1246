import OptionProtocol.Text.Basic
import OptionProtocol.Text.Identifier

/-! Dotted names: a module path and the name of a class in it. -/

set_option autoImplicit false

namespace OptionProtocol.Name

def parts (name : String) : List String := Text.pieces '.' name

def last (name : String) : String := (parts name).getLast?.getD ""

def path (name : String) : String := ".".intercalate (parts name).dropLast

/-- The module part of a name that has one. -/
def path? (name : String) : Option String := if path name = "" then none else some (path name)

/-- Every part is an identifier. -/
def isDotted (name : String) : Bool :=
  (parts name).all fun part => Text.isIdentifier part.toList

/-- The contract of option handlers. -/
def capability : String := "optionhandler.codec.OptionHandler"

/-- The name denotes the contract of option handlers, in full or by its last part. -/
def isCapability (name : String) : Bool := name == capability || name == last capability

end OptionProtocol.Name
