import OptionProtocol.Template.Filter

/-! The text of a generated module, line by line. -/

set_option autoImplicit false

namespace OptionProtocol

structure OptionText where
  property : String
  field : String
  constant : String
  flag : String
  default : String
  constraint : Option String
  tip : String
  annotation : String
  parseCall : String
  addCall : String
  listCall : String
  deriving Repr

structure ModuleText where
  fileName : String
  licenseHeader : Option String
  year : String
  organization : String
  author : String
  name : String
  className : String
  bases : List String
  imports : List String
  options : List OptionText
  isRoot : Bool
  comments : Bool
  properties : Bool
  typeHints : Bool
  forwardsArguments : Bool
  deriving Repr

namespace ModuleText

def quotes : String := "\"\"\""

/-- Lines that are only written when comments are wanted. -/
def commented (m : ModuleText) (lines : List String) : List String :=
  if m.comments then lines else []

def hint (m : ModuleText) (text : String) : String := if m.typeHints then text else ""

def docstring (s : String) : String := Text.over Filter.docstringLine s

def header (m : ModuleText) : List String :=
  (match m.licenseHeader with
   | some text => [Text.over (Filter.commentLines ['#']) text, ""]
   | none => []) ++
  [quotes,
   m.fileName,
   "Copyright (C) " ++ m.year ++ " " ++ docstring m.organization,
   quotes,
   ""]

def classHead (m : ModuleText) : List String :=
  ["",
   "logger = logging.getLogger(__name__)",
   "",
   "",
   "class " ++ m.className ++ "(" ++ ", ".intercalate m.bases ++ "):",
   "    " ++ quotes,
   "    Superclass for " ++ m.name ++ " containing the option handling.",
   "",
   "    Author: " ++ docstring m.author,
   "    " ++ quotes] ++
  (if m.options.isEmpty then []
   else "" :: m.options.map fun option =>
     "    " ++ option.constant ++ " = " ++ Text.quoted option.flag)

def constructor (m : ModuleText) : List String :=
  (if m.forwardsArguments then
     ["",
      "    def __init__(self, *args, **kwargs):",
      "        super().__init__(*args, **kwargs)"]
   else
     ["",
      "    def __init__(self):",
      "        super().__init__()"]) ++
  m.options.map fun option =>
    "        self._" ++ option.field ++ " = self.get_default_" ++ option.field ++ "()"

def globalInfo (m : ModuleText) : List String :=
  ["",
   "    def global_info(self)" ++ m.hint " -> str" ++ ":"] ++
  m.commented
    ["        " ++ quotes,
     "        Returns a string describing the class.",
     "",
     "        Returns:",
     "            The description, suitable for displaying in a GUI",
     "        " ++ quotes] ++
  ["        raise NotImplementedError(f\"\x7btype(self).__name__\x7d must implement " ++
    "global_info()\")"]

def listOptions (m : ModuleText) : List String :=
  ["",
   "    def list_options(self)" ++ m.hint " -> list" ++ ":"] ++
  m.commented
    ["        " ++ quotes,
     "        Returns a list describing the available options.",
     "",
     "        Returns:",
     "            List of option descriptions",
     "        " ++ quotes] ++
  ["        result = []"] ++
  m.options.map (fun option => "        " ++ option.listCall) ++
  (if m.isRoot then [] else ["        codec.add_all(result, super().list_options())"]) ++
  ["        return result"]

def setOptions (m : ModuleText) : List String :=
  ["",
   "    def set_options(self, options)" ++ m.hint " -> list[str]" ++ ":"] ++
  m.commented
    ["        " ++ quotes,
     "        Parses the given options. Options not handled here are left",
     "        for the superclass.",
     "",
     "        Args:",
     "            options: The tokens to parse",
     "",
     "        Returns:",
     "            The tokens that were not consumed",
     "",
     "        Raises:",
     "            MalformedValueError: If a value cannot be parsed",
     "        " ++ quotes] ++
  ["        tokens = codec.TokenSequence(options)"] ++
  m.options.map (fun option =>
    "        self.set_" ++ option.field ++ "(" ++ option.parseCall ++ ")") ++
  [if m.isRoot then "        return tokens.remaining()"
   else "        return super().set_options(tokens.remaining())"]

def getOptions (m : ModuleText) : List String :=
  ["",
   "    def get_options(self)" ++ m.hint " -> list[str]" ++ ":"] ++
  m.commented
    ["        " ++ quotes,
     "        Returns the current settings.",
     "",
     "        Returns:",
     "            The options as tokens, suitable for set_options",
     "        " ++ quotes] ++
  ["        result = []"] ++
  m.options.map (fun option => "        " ++ option.addCall) ++
  (if m.isRoot then [] else ["        codec.add_all(result, super().get_options())"]) ++
  ["        return result"]

def defaultGetter (m : ModuleText) (option : OptionText) : List String :=
  ["",
   "    def get_default_" ++ option.field ++ "(self)" ++ m.hint (" -> " ++ option.annotation) ++
     ":"] ++
  m.commented
    ["        " ++ quotes ++ "Returns the default value for option " ++ option.property ++ "." ++
       quotes] ++
  ["        return " ++ option.default]

def getter (m : ModuleText) (option : OptionText) : List String :=
  ["",
   "    def get_" ++ option.field ++ "(self)" ++ m.hint (" -> " ++ option.annotation) ++ ":"] ++
  m.commented
    ["        " ++ quotes ++ "Returns the current value for option " ++ option.property ++ "." ++
       quotes] ++
  ["        return self._" ++ option.field]

def setter (m : ModuleText) (option : OptionText) : List String :=
  ["",
   "    def set_" ++ option.field ++ "(self, value" ++ m.hint (": " ++ option.annotation) ++ ")" ++
     m.hint " -> bool" ++ ":"] ++
  m.commented
    ["        " ++ quotes,
     "        Sets the value for option " ++ option.property ++ ".",
     "",
     "        Args:",
     "            value: The new value",
     "",
     "        Returns:",
     "            True if the value was accepted, False if it was rejected",
     "        " ++ quotes] ++
  (match option.constraint with
   | none => []
   | some constraint =>
       ["        if not (" ++ constraint ++ "):",
        "            logger.debug(\"Rejected value for -%s: %r\", self." ++ option.constant ++
          ", value)",
        "            return False"]) ++
  ["        self._" ++ option.field ++ " = value",
   "        return True"]

def tipText (m : ModuleText) (option : OptionText) : List String :=
  ["",
   "    def " ++ option.field ++ "_tip_text(self)" ++ m.hint " -> str" ++ ":"] ++
  m.commented
    ["        " ++ quotes ++ "Returns the help string for option " ++ option.property ++ "." ++
       quotes] ++
  ["        return " ++ Text.quoted option.tip] ++
  (if m.properties then
     ["",
      "    " ++ option.field ++ " = property(get_" ++ option.field ++ ", set_" ++ option.field ++
        ")"]
   else [])

def accessors (m : ModuleText) (option : OptionText) : List String :=
  m.defaultGetter option ++ m.getter option ++ m.setter option ++ m.tipText option

/-- The lines of the module. A text put into a line may bring line ends of its own. -/
def lines (m : ModuleText) : List String :=
  m.header ++ m.imports ++ m.classHead ++ m.constructor ++ m.globalInfo ++ m.listOptions ++
    m.setOptions ++ m.getOptions ++ m.options.flatMap m.accessors

def text (m : ModuleText) : String := "\n".intercalate m.lines ++ "\n"

end ModuleText

end OptionProtocol
