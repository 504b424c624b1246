import Mathlib.Data.String.Basic
import OptionProtocol.Proofs.Definition.Naming
import OptionProtocol.Proofs.Definition.TypeGrammar
import OptionProtocol.Proofs.Emission.Bases
import OptionProtocol.Proofs.Emission.Expressions
import OptionProtocol.Proofs.Name.Dotted

/-! Import statements of generated modules. They are kept in a strict order, so what is imported
determines in which lines it stands, whatever order it was asked for in. -/

set_option autoImplicit false

namespace OptionProtocol

namespace Import

variable {a b c : String} {statements others : List String}

/-- An import of a module, and not one from a module. -/
def IsPlain (statement : String) : Prop := "import ".toList <+: statement.toList

/-- Plain imports come first, and statements of one kind are in the order of their texts. -/
inductive Precedes (a b : String) : Prop where
  | kinds (first : IsPlain a) (second : ¬IsPlain b)
  | texts (same : IsPlain a ↔ IsPlain b) (less : a < b)

theorem Precedes.ne (before : Precedes a b) : a ≠ b := by
  rintro rfl
  cases before with
  | kinds first second => exact second first
  | texts _ less => exact String.lt_irrefl a less

theorem Precedes.trans (first : Precedes a b) (second : Precedes b c) : Precedes a c := by
  cases first with
  | kinds plain other =>
    cases second with
    | kinds middle _ => exact absurd middle other
    | texts same _ => exact .kinds plain (fun last => other (same.mpr last))
  | texts same less =>
    cases second with
    | kinds middle other => exact .kinds (same.mpr middle) other
    | texts next more => exact .texts (same.trans next) (String.lt_trans less more)

theorem Precedes.asymm (before : Precedes a b) : ¬Precedes b a :=
  fun behind => (before.trans behind).ne rfl

instance : DecidablePred IsPlain := fun _ => inferInstanceAs (Decidable (_ <+: _))

theorem startsWith_import (statement : String) :
    statement.startsWith "import " = decide (IsPlain statement) := by
  rw [Bool.eq_iff_iff, String.startsWith_string_iff, decide_eq_true_eq, IsPlain]

theorem before_iff : before a b = true ↔ a = b ∨ Precedes a b := by
  simp only [before, startsWith_import]
  by_cases same : IsPlain a ↔ IsPlain b
  · have kinds : ¬(IsPlain a ∧ ¬IsPlain b) := fun other => other.2 (same.mp other.1)
    simp only [same, beq_self_eq_true, if_true, decide_eq_true_eq, le_iff_eq_or_lt]
    refine or_congr_right ⟨.texts same, ?_⟩
    rintro (⟨first, second⟩ | ⟨_, less⟩)
    · exact absurd ⟨first, second⟩ kinds
    · exact less
  · have other : a ≠ b := by
      rintro rfl
      exact same Iff.rfl
    have kinds : (decide (IsPlain a) == decide (IsPlain b)) = false := by
      simpa using same
    simp only [kinds, Bool.false_eq_true, if_false, decide_eq_true_eq, other, false_or]
    constructor
    · exact fun first => .kinds first fun second => same (iff_of_true first second)
    · rintro (⟨first, _⟩ | ⟨same', _⟩)
      · exact first
      · exact absurd same' same

theorem before_total (a b : String) : (before a b || before b a) = true := by
  simp only [Bool.or_eq_true, before_iff]
  by_cases same : IsPlain a ↔ IsPlain b
  · obtain less | rfl | more := lt_trichotomy a b
    · exact .inl (.inr (.texts same less))
    · exact .inl (.inl rfl)
    · exact .inr (.inr (.texts same.symm more))
  · by_cases first : IsPlain a
    · exact .inl (.inr (.kinds first fun second => same (iff_of_true first second)))
    · have second : IsPlain b := by_contra fun second => same (iff_of_false first second)
      exact .inr (.inr (.kinds second first))

theorem before_trans (a b c : String) (first : before a b = true) (second : before b c = true) :
    before a c = true := by
  rw [before_iff] at first second ⊢
  obtain rfl | first := first
  · exact second
  · obtain rfl | second := second
    · exact .inr first
    · exact .inr (first.trans second)

/-! The statements in their order. -/

theorem nodup_eraseDups (statements : List String) : statements.eraseDups.Nodup := by
  match statements with
  | [] => simp
  | first :: rest =>
    rw [List.eraseDups_cons]
    exact List.nodup_cons.mpr ⟨by simp [List.mem_eraseDups], nodup_eraseDups _⟩
termination_by statements.length
decreasing_by
  have shorter := List.length_filter_le (fun other => !other == first) rest
  simp only [List.length_cons]
  omega

theorem mem_sort : a ∈ sort statements ↔ a ∈ statements ∧ a ≠ "" := by
  simp [sort, List.mem_mergeSort, List.mem_eraseDups]

theorem pairwise_sort (statements : List String) : (sort statements).Pairwise Precedes := by
  have distinct : (sort statements).Nodup :=
    (List.mergeSort_perm _ before).nodup_iff.mpr (nodup_eraseDups _)
  have sorted := List.pairwise_mergeSort before_trans before_total
    (statements.filter (· ≠ "")).eraseDups
  exact (List.Pairwise.and sorted distinct).imp fun ⟨le, ne⟩ => (before_iff.mp le).resolve_left ne

/-- Statements in their order are determined by which ones they are. -/
theorem eq_of_pairwise (first : statements.Pairwise Precedes) (second : others.Pairwise Precedes)
    (same : ∀ a, a ∈ statements ↔ a ∈ others) : statements = others := by
  have distinct {list : List String} (ordered : list.Pairwise Precedes) : list.Nodup :=
    ordered.imp Precedes.ne
  refine List.Perm.eq_of_pairwise ?_ first second
    ((List.perm_ext_iff_of_nodup (distinct first) (distinct second)).mpr same)
  exact fun a b _ _ before behind => absurd behind before.asymm

theorem sort_eq_of_mem (same : ∀ a, a ∈ statements ↔ a ∈ others) : sort statements = sort others :=
  eq_of_pairwise (pairwise_sort _) (pairwise_sort _) fun a => by simp only [mem_sort, same]

/-! What the parts of a definition are imported by. -/

theorem required?_eq_some_iff {type : OptionType} :
    required? type = some a ↔
      (∃ className, type.element = .object className ∧ a = "import " ++ Name.path className) ∨
        type.element = .scalar .path ∧ a = "import pathlib" := by
  unfold required?
  split
  · rename_i className typed
    simp [typed, eq_comm]
  · rename_i typed
    simp [typed, eq_comm]
  · rename_i kind other typed
    have apart : kind ≠ .path := other
    simp [typed, apart]

theorem ofClass_eq_some_iff {base : String}
    (legal : base ≠ "" → ∀ part ∈ Name.parts base, IsIdentifier part) :
    ofClass base = some a ↔ ∃ module name, Name.Splits base module name ∧
      a = "from " ++ module ++ " import " ++ name := by
  by_cases dot : '.' ∈ base.toList
  · have some : base ≠ "" := by
      rintro rfl
      cases dot
    have filled : ∀ part ∈ Name.parts base, part ≠ "" := by
      rintro part member rfl
      cases legal some _ member
    rw [ofClass, Name.path?_eq dot filled, Option.map_some, Option.some_inj]
    constructor
    · rintro rfl
      exact ⟨_, _, Name.splits_path_last dot, rfl⟩
    · rintro ⟨module, name, splits, rfl⟩
      rw [splits.eq.1, splits.eq.2]
  · have none : Name.path? base = none := if_pos (Name.path_eq_empty dot)
    rw [ofClass, none]
    refine ⟨nofun, ?_⟩
    rintro ⟨module, name, splits, _⟩
    exact absurd splits.dot_mem dot

end Import

namespace Definition

variable {d e : Definition}

/-- The classes that a definition names are named by identifiers with dots between them. -/
structure ClassesNamed (d : Definition) : Prop where
  bases : ∀ base ∈ d.baseNames, base ≠ "" → ∀ part ∈ Name.parts base, IsIdentifier part
  options : ∀ option ∈ d.options, ∀ className, option.type.element = .object className →
    '.' ∈ className.toList

theorem classesNamed_of_ofJson {source : Option String} {value : Json} {log : List LogRecord}
    (accepted : ofJson source value = .ok (d, log)) : d.ClassesNamed where
  bases base member some := by
    have names := (ofJson_namesLegal accepted).names
    obtain here | member := List.mem_append.mp member
    · have same : base = d.superclass := by
        split at here
        · cases here
        · exact List.mem_singleton.mp here
      rw [same] at some ⊢
      exact names.superclass some
    · exact names.implement base member some
  options option member className typed := by
    have formed := ((ofJson_wellFormed accepted).options.each option member).type.element
    rw [typed] at formed
    cases formed with
    | object dotted => exact dotted.dot_mem

/-- The same bases, further imports and options, perhaps in another order; bases and imports may
also be named more than once. -/
structure Rearranges (d e : Definition) : Prop where
  superclass : e.superclass = d.superclass
  implement : ∀ name, name ∈ e.implement ↔ name ∈ d.implement
  imports : ∀ entry, entry ∈ e.imports ↔ entry ∈ d.imports
  options : e.options.Perm d.options

theorem Rearranges.mem_classes (rearranges : d.Rearranges e) (name : String) :
    name ∈ Bases.classes e.baseNames ↔ name ∈ Bases.classes d.baseNames := by
  simp only [Bases.mem_classes, baseNames, List.mem_append, rearranges.superclass,
    rearranges.implement]

end Definition

namespace Python

variable {c : Configuration} {style : Style} {d e : Definition} {bases : Bases}
  {codec statement : String}

/-- The statements that a module has to have: those for logging, for the codec, for the classes of
objects, for paths and for base classes, and the further imports of the definition. -/
inductive Needs (c : Configuration) (d : Definition) : String → Prop where
  | logging : Needs c d "import logging"
  | codec {module : String} (named : c.codecModule = .text module) : Needs c d (Import.codec module)
  | object {option : OptionDefinition} {className module name : String}
      (member : option ∈ d.options) (typed : option.type.element = .object className)
      (splits : Name.Splits className module name) : Needs c d ("import " ++ module)
  | path {option : OptionDefinition} (member : option ∈ d.options)
      (typed : option.type.element = .scalar .path) : Needs c d "import pathlib"
  | base {base module name : String} (member : base ∈ d.baseNames)
      (other : Name.isCapability base = false) (splits : Name.Splits base module name) :
      Needs c d ("from " ++ module ++ " import " ++ name)
  | extra {entry : String} (member : entry ∈ d.imports) : Needs c d (Import.extra entry)

theorem codecImport_eq_ok {module : Json} :
    codecImport module = .ok codec ↔ ∃ name, module = .text name ∧ codec = Import.codec name := by
  cases module <;> simp [codecImport, eq_comm]

theorem Needs.ne_empty (needs : Needs c d statement) : statement ≠ "" := by
  cases needs with
  | logging => decide
  | codec named =>
    unfold Import.codec
    dsimp only
    split <;> simp
  | object _ _ _ => simp
  | path _ _ => decide
  | base _ _ _ => simp
  | extra _ =>
    unfold Import.extra
    split
    · rintro rfl
      rename_i starts
      simp [String.startsWith_string_iff] at starts
    · simp

theorem mem_importStatements (ok : Bases.ofDefinition d = .ok bases) :
    statement ∈ importStatements codec bases d ↔
      statement = "import logging" ∨ statement = codec ∨
      (∃ base ∈ Bases.classes d.baseNames, Import.ofClass base = some statement) ∨
      (∃ option ∈ d.options, Import.required? option.type = some statement) ∨
      ∃ entry ∈ d.imports, Import.extra entry = statement := by
  simp [importStatements, Bases.statements_ofDefinition ok]

theorem needs_of_mem (named : d.ClassesNamed) {module : String}
    (settled : c.codecModule = .text module) (ok : Bases.ofDefinition d = .ok bases)
    (inside : statement ∈ importStatements (Import.codec module) bases d) : Needs c d statement := by
  rw [mem_importStatements ok] at inside
  obtain rfl | rfl | ⟨base, class_, imported⟩ | ⟨option, member, required⟩ |
    ⟨entry, member, rfl⟩ := inside
  · exact .logging
  · exact .codec settled
  · obtain ⟨member, other⟩ := Bases.mem_classes.mp class_
    obtain ⟨module, name, splits, rfl⟩ :=
      (Import.ofClass_eq_some_iff (named.bases base member)).mp imported
    exact .base member other splits
  · obtain ⟨className, typed, rfl⟩ | ⟨typed, rfl⟩ := Import.required?_eq_some_iff.mp required
    · have dotted := named.options option member className typed
      exact .object member typed (Name.splits_path_last dotted)
    · exact .path member typed
  · exact .extra member

theorem Needs.mem_importStatements (needs : Needs c d statement) (named : d.ClassesNamed)
    {module : String} (settled : c.codecModule = .text module)
    (ok : Bases.ofDefinition d = .ok bases) :
    statement ∈ importStatements (Import.codec module) bases d := by
  rw [Python.mem_importStatements ok]
  cases needs with
  | logging => exact .inl rfl
  | codec other =>
    obtain rfl := Json.text.inj (settled.symm.trans other)
    exact .inr (.inl rfl)
  | @object option className module name member typed splits =>
    have required := Import.required?_eq_some_iff.mpr (.inl ⟨className, typed, rfl⟩)
    rw [splits.eq.1] at required
    exact .inr (.inr (.inr (.inl ⟨option, member, required⟩)))
  | @path option member typed =>
    have required := Import.required?_eq_some_iff.mpr (.inr ⟨typed, rfl⟩)
    exact .inr (.inr (.inr (.inl ⟨option, member, required⟩)))
  | @base base module name member other splits =>
    have imported := (Import.ofClass_eq_some_iff (named.bases base member)).mpr
      ⟨module, name, splits, rfl⟩
    exact .inr (.inr (.inl ⟨base, Bases.mem_classes.mpr ⟨member, other⟩, imported⟩))
  | @extra entry member => exact .inr (.inr (.inr (.inr ⟨entry, member, rfl⟩)))

/-- The import statements of a definition: exactly those it needs, each once and in their order.
Among them are one for the codec and one for the module of every class that is named with one. -/
structure HasImports (c : Configuration) (d : Definition) (block : List String) : Prop where
  distinct : block.Nodup
  ordered : block.Pairwise Import.Precedes
  needed : ∀ statement, statement ∈ block ↔ Needs c d statement
  codec : ∃ module, c.codecModule = .text module ∧ Import.codec module ∈ block
  objects : ∀ option ∈ d.options, ∀ className, option.type.element = .object className →
    ∃ module name, Name.Splits className module name ∧ "import " ++ module ∈ block
  paths : (∃ option ∈ d.options, option.type.element = .scalar .path) → "import pathlib" ∈ block
  bases : ∀ base ∈ d.baseNames, '.' ∈ base.toList → Name.isCapability base = false →
    ∃ module name, Name.Splits base module name ∧ "from " ++ module ++ " import " ++ name ∈ block

theorem hasImports_sort (named : d.ClassesNamed) {module : String}
    (settled : c.codecModule = .text module) (ok : Bases.ofDefinition d = .ok bases) :
    HasImports c d (Import.sort (importStatements (Import.codec module) bases d)) := by
  have ordered := Import.pairwise_sort (importStatements (Import.codec module) bases d)
  have needed (statement : String) :
      statement ∈ Import.sort (importStatements (Import.codec module) bases d) ↔
        Needs c d statement := by
    rw [Import.mem_sort]
    constructor
    · exact fun member => needs_of_mem named settled ok member.1
    · exact fun needs => ⟨needs.mem_importStatements named settled ok, needs.ne_empty⟩
  exact {
    distinct := ordered.imp Import.Precedes.ne
    ordered := ordered
    needed := needed
    codec := ⟨module, settled, (needed _).mpr (.codec settled)⟩
    objects := fun option member className typed => by
      have splits := Name.splits_path_last (named.options option member className typed)
      exact ⟨_, _, splits, (needed _).mpr (.object member typed splits)⟩
    paths := fun ⟨option, member, typed⟩ => (needed _).mpr (.path member typed)
    bases := fun base member dot other => by
      have splits := Name.splits_path_last dot
      exact ⟨_, _, splits, (needed _).mpr (.base member other splits)⟩ }

def logger : String := "logger = logging.getLogger(__name__)"

/-- The part of a module with the import statements, from the end of its docstring to its logger. -/
def importSection (block : List String) : List String :=
  [ModuleText.quotes, ""] ++ block ++ ["", logger]

/-- The code is that of the module with the import statements, and they stand in it. -/
structure ImportsWritten (c : Configuration) (style : Style) (d : Definition) (code : String)
    (block : List String) : Prop where
  module : ∃ codec bases, codecImport c.codecModule = .ok codec ∧
    Bases.ofDefinition d = .ok bases ∧ (moduleText c style codec bases d).imports = block ∧
      code = formatCode (moduleText c style codec bases d).text
  inside : Formatting.tidied ("\n".intercalate (importSection block)).toList <:+: code.toList

theorem exists_lines_importSection (m : ModuleText) :
    ∃ front back, m.lines = front ++ importSection m.imports ++ back := by
  obtain ⟨front, header⟩ : ∃ front, m.header = front ++ [ModuleText.quotes, ""] :=
    ⟨_, (List.append_assoc _ [ModuleText.quotes, m.fileName, _] _).symm⟩
  obtain ⟨back, classHead⟩ : ∃ back, m.classHead = ["", logger] ++ back := ⟨_, rfl⟩
  refine ⟨front, back ++ m.constructor ++ m.globalInfo ++ m.listOptions ++ m.setOptions ++
    m.getOptions ++ m.options.flatMap m.accessors, ?_⟩
  simp [ModuleText.lines, importSection, header, classHead]

theorem importSection_isTrimmed (block : List String) :
    Text.IsTrimmed Text.isBlank (Filter.unlines ((importSection block).map String.toList)) where
  first := by
    have head : ((importSection block).map String.toList) =
        ModuleText.quotes.toList :: ("" :: block ++ ["", logger]).map String.toList := rfl
    rw [head, Filter.unlines_cons _ (by simp)]
    rintro c ⟨⟩
    decide
  last := by
    obtain ⟨front, whole⟩ := Formatting.exists_unlines_concat
      (([ModuleText.quotes, ""] ++ block ++ [""]).map String.toList) logger.toList
    have last : (importSection block).map String.toList =
        ([ModuleText.quotes, ""] ++ block ++ [""]).map String.toList ++ [logger.toList] := by
      simp [importSection]
    rw [last, whole, List.getLast?_append_of_ne_nil _ (by decide)]
    rintro c ⟨⟩
    decide

theorem importSection_isInfix (m : ModuleText) :
    Formatting.tidied ("\n".intercalate (importSection m.imports)).toList <:+:
      (formatCode m.text).toList := by
  obtain ⟨front, back, whole⟩ := exists_lines_importSection m
  have some : (importSection m.imports).map String.toList ≠ [] := by simp [importSection]
  have joined : ("\n".intercalate (importSection m.imports)).toList =
      Filter.unlines ((importSection m.imports).map String.toList) := String.toList_intercalate ..
  have text : m.text.toList = Filter.unlines (front.map String.toList ++
      ([] ++ Filter.unlines ((importSection m.imports).map String.toList)) ::
        (back.map String.toList ++ [[]])) := by
    rw [List.nil_append, Filter.unlines_unlines some, ModuleText.toList_text, whole]
    simp
  rw [joined, formatCode, Text.over, String.toList_ofList, text]
  refine Formatting.tidied_isInfix_format _ _ (by simp) (importSection_isTrimmed _) ?_
  rw [← joined]
  simp [importSection, String.intercalate_cons_cons, ModuleText.quotes]

theorem importsWritten_of_emit {code : String} (named : codecImport c.codecModule = .ok codec)
    (ok : Bases.ofDefinition d = .ok bases)
    (whole : code = formatCode (moduleText c style codec bases d).text) :
    ImportsWritten c style d code (Import.sort (importStatements codec bases d)) where
  module := ⟨codec, bases, named, ok, rfl, whole⟩
  inside := whole ▸ importSection_isInfix (moduleText c style codec bases d)

/-- What a definition names can be put in another order: there are bases again, and the import
statements are the same. -/
theorem exists_bases_of_rearranges (rearranges : d.Rearranges e)
    (ok : Bases.ofDefinition d = .ok bases) (codec : String) :
    ∃ others, Bases.ofDefinition e = .ok others ∧
      Import.sort (importStatements codec others e) = Import.sort (importStatements codec bases d) := by
  have apart : Bases.Apart (Bases.classes e.baseNames) :=
    (Bases.ofDefinition_ok_iff.mp ⟨bases, ok⟩).mono fun name member =>
      (rearranges.mem_classes name).mp member
  obtain ⟨others, based⟩ := Bases.ofDefinition_ok_iff.mpr apart
  refine ⟨others, based, Import.sort_eq_of_mem fun statement => ?_⟩
  simp only [mem_importStatements based, mem_importStatements ok, rearranges.mem_classes,
    rearranges.options.mem_iff, rearranges.imports]

/-- The code that is generated for a definition that was read has its import statements in one
block: exactly those it needs, each once and in their order. The block stays as it is when base
classes, imports and options are named in another order, or base classes and imports repeatedly. -/
theorem generate_imports {source : Option String} {value : Json} {log : List LogRecord}
    (accepted : Definition.ofJson source value = .ok (d, log)) {generated : GeneratedCode}
    (done : ((generator c style).generate d).result = .ok (.done generated)) :
    ∃ block, ImportsWritten c style d generated.code block ∧ HasImports c d block ∧
      ∀ e, d.Rearranges e → ∃ other : GeneratedCode,
        ((generator c style).generate e).result = .ok (.done other) ∧
          ImportsWritten c style e other.code block := by
  obtain ⟨code, emitted, formatted⟩ := emit_of_generate done
  obtain ⟨codec, bases, settled, ok, rfl⟩ := emit_eq_ok_iff.mp emitted
  obtain ⟨module, text, rfl⟩ := codecImport_eq_ok.mp settled
  refine ⟨_, importsWritten_of_emit settled ok formatted,
    hasImports_sort (Definition.classesNamed_of_ofJson accepted) text ok, fun e rearranges => ?_⟩
  obtain ⟨others, based, same⟩ := exists_bases_of_rearranges rearranges ok (Import.codec module)
  have emitted : emit c style e = .ok (moduleText c style (Import.codec module) others e).text :=
    emit_eq_ok_iff.mpr ⟨_, others, settled, based, rfl⟩
  obtain ⟨other, done, formatted⟩ := generate_of_emit emitted
  exact ⟨other, done, same ▸ importsWritten_of_emit settled based formatted⟩

/-- A class with an array of objects, a path, and dotted bases of which one is named twice. -/
def shelvedJson : Json := .object [
  ("name", .text "Shelf"), ("author", .text "someone"), ("organization", .text "some lab"),
  ("superclass", .text "lib.Base"),
  ("implement", .array [.text "lib.ui.Part", .text "OptionHandler", .text "lib.ui.Part"]),
  ("imports", .array [.text "numpy", .text "from lib import tools"]),
  ("options", .array [
    .object [("property", .text "books"), ("type", .text "lib.store.Book[]"),
      ("default", .text "[]")],
    .object [("property", .text "place"), ("type", .text "path"), ("default", .text "None")]])]

def shelved : Definition where
  name := "Shelf"
  author := "someone"
  organization := "some lab"
  superclass := "lib.Base"
  implement := ["lib.ui.Part", "OptionHandler", "lib.ui.Part"]
  imports := ["numpy", "from lib import tools"]
  isRoot := true
  options := [
    { property := "books", type := ⟨.object "lib.store.Book", true⟩, flag := "books",
      default := "[]", flagDerived := true },
    { property := "place", type := ⟨.scalar .path, false⟩, flag := "place", default := "None",
      flagDerived := true }]

/-- The same class with everything in another order. -/
def reshelved : Definition :=
  { shelved with
    implement := ["OptionHandler", "lib.ui.Part"]
    imports := shelved.imports.reverse
    options := shelved.options.reverse }

theorem rearranges_reshelved : shelved.Rearranges reshelved where
  superclass := rfl
  implement := by simp [shelved, reshelved, or_comm]
  imports := by simp [shelved, reshelved, or_comm]
  options := List.reverse_perm shelved.options

theorem generate_imports_shelved :
    Definition.ofJson none shelvedJson = .ok (shelved, []) ∧
      ∃ generated : GeneratedCode,
        ((generator {} {}).generate shelved).result = .ok (.done generated) ∧
        ∃ block, ImportsWritten {} {} shelved generated.code block ∧
          "from optionhandler import codec" ∈ block ∧ "import lib.store" ∈ block ∧
          "import pathlib" ∈ block ∧ "from lib.ui import Part" ∈ block ∧
          ∃ other : GeneratedCode,
            ((generator {} {}).generate reshelved).result = .ok (.done other) ∧
              ImportsWritten {} {} reshelved other.code block := by
  have accepted : Definition.ofJson none shelvedJson = .ok (shelved, []) := by
    with_unfolding_all rfl
  obtain ⟨generated, done⟩ : ∃ generated,
      ((generator {} {}).generate shelved).result = .ok (.done generated) := ⟨_, rfl⟩
  obtain ⟨block, written, has, orders⟩ := generate_imports accepted done
  have codec : Needs {} shelved (Import.codec "optionhandler.codec") := .codec rfl
  have named : Import.codec "optionhandler.codec" = "from optionhandler import codec" := by decide
  rw [named] at codec
  have store : Name.Splits "lib.store.Book" "lib.store" "Book" := ⟨by decide, by decide⟩
  have books : Needs {} shelved "import lib.store" := .object List.mem_cons_self rfl store
  have place : Needs {} shelved "import pathlib" :=
    .path (List.mem_cons_of_mem _ List.mem_cons_self) rfl
  have part : Name.Splits "lib.ui.Part" "lib.ui" "Part" := ⟨by decide, by decide⟩
  have parts : Needs {} shelved "from lib.ui import Part" := .base (by decide) (by decide) part
  exact ⟨accepted, generated, done, block, written, (has.needed _).mpr codec,
    (has.needed _).mpr books, (has.needed _).mpr place, (has.needed _).mpr parts,
    orders _ rearranges_reshelved⟩

end Python

end OptionProtocol
