import OptionProtocol.Failure
import OptionProtocol.Template.Basic

/-! Where templates are kept: in memory or in a directory. -/

set_option autoImplicit false

namespace OptionProtocol

inductive TemplateStore where
  | memory (templates : List (String × String))
  | directory (path : FilePath)
  deriving Repr

namespace TemplateStore

/-- The store of a directory, in memory if there is none. -/
def ofDirectory (files : Files) (path : Option FilePath) : TemplateStore :=
  match path with
  | some path => if files.exists? path then .directory path else .memory []
  | none => .memory []

/-- Add a template. Only a store in memory takes one, so a directory is given up for it. -/
def add (store : TemplateStore) (name content : String) : TemplateStore :=
  match store with
  | .memory templates => .memory (Json.put templates name content)
  | .directory _ => .memory [(name, content)]

/-- The names of the files below a place, written from that place on. -/
def namesBelow (files : Files) (place : Place) : List String :=
  files.nodes.filterMap fun entry =>
    match entry.2 with
    | .file _ =>
        if place.isPrefixOf entry.1 then some ("/".intercalate (entry.1.drop place.length))
        else none
    | .directory => none

def names (files : Files) : TemplateStore → List String
  | .memory templates => templates.map Prod.fst
  | .directory path =>
      match files.locate path with
      | .ok place => if files.isDirectory path then namesBelow files place else []
      | .error _ => []

def contains (store : TemplateStore) (files : Files) (name : String) : Bool :=
  (store.names files).contains name

/-- The text of a template. Names of templates do not lead out of their directory. -/
def find (store : TemplateStore) (files : Files) (name : String) : Except TemplateFault String :=
  match store with
  | .memory templates =>
      match templates.lookup name with
      | some content => .ok content
      | none => .error (.unknown name)
  | .directory path =>
      let steps := FilePath.namesOf name
      if steps.contains ".." then .error (.unknown name)
      else
        match files.find? ⟨path.start, path.names ++ steps⟩ with
        | some (.file content) =>
            match content.decode with
            | .ok text => .ok text
            | .error fault => .error (.unreadable name fault)
        | _ => .error (.notInDirectory name path)

def render (store : TemplateStore) (files : Files) (name : String)
    (values : List (String × String)) : Except TemplateFault String :=
  match store.find files name with
  | .error fault => .error fault
  | .ok source =>
      match Template.fill source values with
      | .ok text => .ok text
      | .error item => .error (.undefined (some name) item)

end TemplateStore

def renderString (source : String) (values : List (String × String)) :
    Except TemplateFault String :=
  match Template.fill source values with
  | .ok text => .ok text
  | .error item => .error (.undefined none item)

end OptionProtocol
