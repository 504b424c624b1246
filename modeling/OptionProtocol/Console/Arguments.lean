import OptionProtocol.Number.Reading
import OptionProtocol.Text.Digit
import OptionProtocol.Text.Quoted

/-! Arguments of the command: switches, their values, and what is wrong with them. -/

set_option autoImplicit false

namespace OptionProtocol

inductive Switch where
  | help
  | configuration
  | outputDirectory
  | packageStructure
  | makeDirectories
  | toStdout
  | keepGoing
  | language
  | config
  | noComments
  | copyrightYear
  | moduleCase
  | listLanguages
  | verbose
  | version
  deriving DecidableEq, Repr

inductive Arity where
  | zero
  | one
  | oneOrMore
  deriving DecidableEq, Repr

namespace Switch

def all : List Switch := [
  .help, .configuration, .outputDirectory, .packageStructure, .makeDirectories, .toStdout,
  .keepGoing, .language, .config, .noComments, .copyrightYear, .moduleCase, .listLanguages,
  .verbose, .version]

def names : Switch → List String
  | .help => ["-h", "--help"]
  | .configuration => ["--configuration"]
  | .outputDirectory => ["--output-dir"]
  | .packageStructure => ["--add-package-structure"]
  | .makeDirectories => ["--generate-dirs"]
  | .toStdout => ["--stdout"]
  | .keepGoing => ["--keep-going"]
  | .language => ["--language", "-l"]
  | .config => ["--config"]
  | .noComments => ["--no-comments"]
  | .copyrightYear => ["--copyright-year"]
  | .moduleCase => ["--module-case"]
  | .listLanguages => ["--list-languages"]
  | .verbose => ["--verbose", "-v"]
  | .version => ["--version"]

def arity : Switch → Arity
  | .configuration => .oneOrMore
  | .outputDirectory | .language | .config | .copyrightYear | .moduleCase => .one
  | _ => .zero

def named : List (String × Switch) :=
  all.flatMap fun switch => switch.names.map fun name => (name, switch)

def ofName? (name : String) : Option Switch := named.lookup name

end Switch

inductive UsageFault where
  | ambiguous (written : String) (names : List String)
  | missingValue (switch : Switch)
  | needlessValue (switch : Switch) (value : String)
  | notInteger (switch : Switch) (value : String)
  | notChoice (switch : Switch) (value : String) (choices : List String)
  | unrecognized (arguments : List String)
  deriving DecidableEq, Repr

def UsageFault.about (switch : Switch) (problem : String) : String :=
  "argument " ++ "/".intercalate switch.names ++ ": " ++ problem

def UsageFault.message : UsageFault → String
  | .ambiguous written names =>
      "ambiguous option: " ++ written ++ " could match " ++ ", ".intercalate names
  | .missingValue switch =>
      about switch (if switch.arity = .one then "expected one argument"
        else "expected at least one argument")
  | .needlessValue switch value =>
      about switch ("ignored explicit argument " ++ Text.quoted value)
  | .notInteger switch value => about switch ("invalid int value: " ++ Text.quoted value)
  | .notChoice switch value choices =>
      about switch ("invalid choice: " ++ Text.quoted value ++ " (choose from " ++
        ", ".intercalate (choices.map Text.quoted) ++ ")")
  | .unrecognized arguments => "unrecognized arguments: " ++ " ".intercalate arguments

structure Arguments where
  sources : List String := []
  outputDirectory : Option String := none
  packageStructure : Bool := false
  makesDirectories : Bool := false
  toStdout : Bool := false
  keepsGoing : Bool := false
  language : String := "python"
  configFile : Option String := none
  withoutComments : Bool := false
  copyrightYear : Option Int := none
  moduleCase : Option String := none
  listsLanguages : Bool := false
  verbose : Bool := false
  deriving DecidableEq, Repr

inductive Command where
  | run (arguments : Arguments)
  | showHelp
  | showVersion
  deriving DecidableEq, Repr

inductive Word where
  | value
  | separator
  | switch (switch : Switch) (name : String) (attached : Option String)
  | unknown
  deriving DecidableEq, Repr

namespace Arguments

/-- Negative numbers are values and not switches. -/
def isNegativeNumber (s : List Char) : Bool :=
  let isDigit (c : Char) : Bool := (Text.digitValue? c).isSome
  let body := if s.getLast? = some '\n' then s.dropLast else s
  match body with
  | '-' :: rest =>
      let whole := rest.takeWhile isDigit
      match rest.drop whole.length with
      | [] => !whole.isEmpty
      | '.' :: fraction => !fraction.isEmpty && fraction.all isDigit
      | _ => false
  | _ => false

def splitEquals (s : String) : String × Option String :=
  let before := s.toList.takeWhile (· ≠ '=')
  match s.toList.drop before.length with
  | _ :: value => (String.ofList before, some (String.ofList value))
  | [] => (s, none)

/-- What a shortened name, or a short one with a value attached, can stand for. -/
def candidates (written : String) : List (Switch × String × Option String) :=
  match written.toList with
  | '-' :: '-' :: _ =>
      let (name, attached) := splitEquals written
      (Switch.named.filter fun entry => entry.1.startsWith name).map fun entry =>
        (entry.2, entry.1, attached)
  | a :: b :: attached =>
      (Switch.named.filter fun entry => entry.1 == String.ofList [a, b]).map fun entry =>
        (entry.2, entry.1, some (String.ofList attached))
  | _ => []

def classify (written : String) : Except UsageFault Word :=
  if !written.startsWith "-" then .ok .value
  else
    match Switch.ofName? written with
    | some switch => .ok (.switch switch written none)
    | none =>
        if written.length = 1 then .ok .value
        else
          let (name, attached) := splitEquals written
          match attached, Switch.ofName? name with
          | some value, some switch => .ok (.switch switch name (some value))
          | _, _ =>
              match candidates written with
              | [(switch, name, attached)] => .ok (.switch switch name attached)
              | [] =>
                  if isNegativeNumber written.toList || written.contains ' ' then .ok .value
                  else .ok .unknown
              | several => .error (.ambiguous written (several.map fun one => one.2.1))

/-- All arguments with what they are. Behind a separator there are only values. -/
def classifyAll : List String → Except UsageFault (List (String × Word))
  | [] => .ok []
  | written :: rest =>
      if written = "--" then
        .ok ((written, .separator) :: rest.map fun value => (value, .value))
      else
        match classify written with
        | .error fault => .error fault
        | .ok word => (classifyAll rest).map ((written, word) :: ·)

def moduleCases : List String := ["snake", "original"]

/-- Take a switch with its values. Some switches are commands of their own. -/
def take (a : Arguments) (switch : Switch) (values : List String) :
    Except UsageFault (Arguments × Option Command) :=
  let value := values.head?.getD ""
  match switch with
  | .help => .ok (a, some .showHelp)
  | .version => .ok (a, some .showVersion)
  | .configuration => .ok ({ a with sources := values }, none)
  | .outputDirectory => .ok ({ a with outputDirectory := some value }, none)
  | .packageStructure => .ok ({ a with packageStructure := true }, none)
  | .makeDirectories => .ok ({ a with makesDirectories := true }, none)
  | .toStdout => .ok ({ a with toStdout := true }, none)
  | .keepGoing => .ok ({ a with keepsGoing := true }, none)
  | .language => .ok ({ a with language := value }, none)
  | .config => .ok ({ a with configFile := some value }, none)
  | .noComments => .ok ({ a with withoutComments := true }, none)
  | .copyrightYear =>
      match Number.readInt? value with
      | some year => .ok ({ a with copyrightYear := some year }, none)
      | none => .error (.notInteger switch value)
  | .moduleCase =>
      if moduleCases.contains value then .ok ({ a with moduleCase := some value }, none)
      else .error (.notChoice switch value moduleCases)
  | .listLanguages => .ok ({ a with listsLanguages := true }, none)
  | .verbose => .ok ({ a with verbose := true }, none)

/-- Take switches one after the other, up to one that is a command. -/
def takeAll (a : Arguments) : List (Switch × List String) →
    Except UsageFault (Arguments × Option Command)
  | [] => .ok (a, none)
  | (switch, values) :: rest =>
      match a.take switch values with
      | .error fault => .error fault
      | .ok (a, some command) => .ok (a, some command)
      | .ok (a, none) => a.takeAll rest

/-- The switches in one argument: short ones without values may share it with another one.
The last switch comes with the value attached to it, if there is one. -/
def unchain (switch : Switch) (isShort : Bool) :
    List Char → Except UsageFault (List Switch × Switch × Option String)
  | [] =>
      if switch.arity = .zero then .error (.needlessValue switch "")
      else .ok ([], switch, some "")
  | c :: rest =>
      if switch.arity ≠ .zero then .ok ([], switch, some (String.ofList (c :: rest)))
      else if !isShort then .error (.needlessValue switch (String.ofList (c :: rest)))
      else
        match Switch.ofName? (String.ofList ['-', c]) with
        | none => .error (.needlessValue switch (String.ofList (c :: rest)))
        | some next =>
            if rest.isEmpty then .ok ([switch], next, none)
            else
              (unchain next true rest).map fun (before, last) => (switch :: before, last)

def leadingValues (words : List (String × Word)) : List String :=
  (words.takeWhile fun word => word.2 == .value).map Prod.fst

/-- The values that a switch takes from the arguments behind it. -/
def valuesFor (switch : Switch) (words : List (String × Word)) :
    Except UsageFault (List String) :=
  match switch.arity with
  | .zero => .ok []
  | .one =>
      match leadingValues words with
      | value :: _ => .ok [value]
      | [] => .error (.missingValue switch)
  | .oneOrMore =>
      match leadingValues words with
      | [] => .error (.missingValue switch)
      | values => .ok values

/-- The switches that an argument stands for, with their values, and how many of the following
arguments they take. -/
def resolve (switch : Switch) (name : String) (attached : Option String)
    (rest : List (String × Word)) : Except UsageFault (List (Switch × List String) × Nat) := do
  let (before, last, value) ← match attached with
    | none => pure ([], switch, none)
    | some value => unchain switch (!name.startsWith "--") value.toList
  let before := before.map fun switch => (switch, ([] : List String))
  match value with
  | some value => return (before ++ [(last, [value])], 0)
  | none =>
      let values ← valuesFor last rest
      return (before ++ [(last, values)], values.length)

/-- Go through the arguments; `extras` are those that belong to no switch. -/
def interpret (a : Arguments) (extras : List String) (words : List (String × Word)) :
    Except UsageFault Command :=
  match words with
  | [] => if extras.isEmpty then .ok (.run a) else .error (.unrecognized extras)
  | (written, word) :: rest =>
      match word with
      | .switch switch name attached =>
          match resolve switch name attached rest with
          | .error fault => .error fault
          | .ok (switches, count) =>
              match a.takeAll switches with
              | .error fault => .error fault
              | .ok (_, some command) => .ok command
              | .ok (a, none) => interpret a extras (rest.drop count)
      | _ => interpret a (extras ++ [written]) rest
termination_by words.length
decreasing_by all_goals (simp only [List.length_drop, List.length_cons]; omega)

def parse (arguments : List String) : Except UsageFault Command :=
  match classifyAll arguments with
  | .error fault => .error fault
  | .ok words => interpret {} [] words

end Arguments

end OptionProtocol
