import OptionProtocol.Proofs.Name.Numbering
import OptionProtocol.Proofs.Name.Snake
import OptionProtocol.Proofs.Table

/-! What a sanitizer answers. Every answer to a property is an identifier in small letters
that means nothing else in generated code. -/

set_option autoImplicit false

namespace OptionProtocol

namespace Name

/-- A word of generated code that a name may not be. -/
def IsReserved (name : String) : Prop := name ∈ keywords ++ (guardedBuiltins ++ protocolNames)

/-- An identifier in small letters with no meaning of its own. -/
structure IsAttribute (name : String) : Prop where
  identifier : Text.isIdentifier name.toList = true
  lower : Text.lowered name = name
  keyword : name ∉ keywords
  builtin : name ∉ guardedBuiltins
  protocol : name ∉ protocolNames

/-- The common form of the attributes: a small letter first, then small letters, digits and
underscores. -/
structure IsUsable (name : String) : Prop where
  small : StartsSmall isSmallChar name.toList
  free : ¬IsReserved name

theorem lowered_of_small {name : String} (small : ∀ c ∈ name.toList, isSmallChar c = true) :
    Text.lowered name = name := by
  have common (c : Char) (member : c ∈ name.toList) : Text.IsCommon c :=
    isCommon_of_isWordChar (isWordChar_of_isSmallChar (small c member))
  have same := Text.map_eq_self fun c member => toLower_of_isSmallChar (small c member)
  rw [Text.lowered, Text.lower_common common, same, String.ofList_toList]

theorem isIdentifier_of_startsSmall {s : List Char} (small : StartsSmall isSmallChar s) :
    Text.isIdentifier s = true := by
  obtain ⟨c, rest, rfl, letter, _⟩ := small.exists_cons
  rw [Text.isIdentifier, Bool.and_eq_true, List.all_eq_true]
  constructor
  · have common : c.toNat < 0x80 := Text.IsCommon.of_isLower letter
    simp [Text.isIdentifierStart, common, Text.isAlpha_of_isLower letter]
  · intro d member
    have word := isWordChar_of_isSmallChar (small.all d (List.mem_cons_of_mem _ member))
    have common : d.toNat < 0x80 := isCommon_of_isWordChar word
    rw [Text.isIdentifierPart, if_pos common]
    exact word

theorem IsUsable.isAttribute {name : String} (usable : IsUsable name) : IsAttribute name := by
  have free := usable.free
  simp only [IsReserved, List.mem_append, not_or] at free
  exact {
    identifier := isIdentifier_of_startsSmall usable.small
    lower := lowered_of_small usable.small.all
    keyword := free.1
    builtin := free.2.1
    protocol := free.2.2 }

theorem IsReserved.last {name : String} (reserved : IsReserved name) :
    name.toList.getLast?.any Char.isLower = true := by
  have words : (keywords ++ (guardedBuiltins ++ protocolNames)).all
      (fun name => name.toList.getLast?.any Char.isLower) = true := by decide +kernel
  exact List.all_eq_true.mp words name reserved

/-- No reserved word ends like the names that were changed to be no reserved word. -/
theorem isUsable_of_append {name : String} {stem tail : List Char}
    (small : StartsSmall isSmallChar stem) (spelled : name.toList = stem ++ tail)
    (filled : tail ≠ []) (all : ∀ c ∈ tail, isSmallChar c = true ∧ c.isLower = false) :
    IsUsable name where
  small := {
    first := by
      obtain ⟨c, rest, rfl, letter, _⟩ := small.exists_cons
      exact ⟨c, by rw [spelled]; rfl, letter⟩
    all := by
      intro c member
      rw [spelled] at member
      rcases List.mem_append.mp member with front | back
      · exact small.all c front
      · exact (all c back).1 }
  free reserved := by
    obtain ⟨c, last, letter⟩ := (Option.any_eq_true _ _).mp reserved.last
    rw [spelled, List.getLast?_append_of_ne_nil _ filled] at last
    have other := (all c (List.mem_of_mem_getLast? last)).2
    exact absurd letter (by rw [other]; decide)

theorem isSmallChar_of_isDigit {c : Char} (digit : c.isDigit = true) :
    isSmallChar c = true ∧ c.isLower = false := by
  refine ⟨by simp [isSmallChar, digit], Bool.eq_false_iff.mpr fun letter => ?_⟩
  rw [Text.not_isDigit_of_isAlpha (Text.isAlpha_of_isLower letter)] at digit
  cases digit

theorem IsUsable.numbered {name : String} (usable : IsUsable name) (n : Nat) :
    IsUsable (Sanitizer.numbered name n) := by
  by_cases zero : n = 0
  · rwa [zero]
  · refine isUsable_of_append usable.small (Sanitizer.toList_numbered name n)
      (Sanitizer.numeral_ne_nil zero) fun c member => ?_
    exact isSmallChar_of_isDigit (Sanitizer.isDigit_of_mem_numeral member)

end Name

namespace Sanitizer

open Name

/-- The name that a sanitizer counts up from. -/
def stem (s : Sanitizer) (name suffix : String) : String :=
  if s.isTaken name then name ++ suffix else name

/-- What a sanitizer answers to a request, and what it is afterwards: it remembers the answer,
or counts up to a name that is not in use. -/
inductive Answers (s : Sanitizer) (name : String) (style : NameCase) (suffix : String) :
    String → Sanitizer → Prop where
  | remembered {answer : String}
      (found : s.given.lookup (request name style suffix) = some answer) :
      Answers s name style suffix answer s
  | counted {answer : String} (new : s.given.lookup (request name style suffix) = none)
      (counted : CountsTo (· ∉ s.used) (s.stem (spelled style name) suffix) 0 answer) :
      Answers s name style suffix answer
        { s with
          given := (request name style suffix, answer) :: s.given
          used := answer :: s.used }

theorem answers_sanitize (s : Sanitizer) (name : String) (style : NameCase) (suffix : String) :
    s.Answers name style suffix (s.sanitize name style suffix).1
      (s.sanitize name style suffix).2 := by
  rw [sanitize]
  cases found : s.given.lookup (request name style suffix) with
  | some answer => exact .remembered found
  | none => exact .counted found (countsTo_firstFree _ _)

theorem Answers.unique {s after later : Sanitizer} {name suffix answer other : String}
    {style : NameCase} (answered : s.Answers name style suffix answer after)
    (again : s.Answers name style suffix other later) : answer = other ∧ after = later := by
  cases answered with
  | remembered found =>
    cases again with
    | remembered same => exact ⟨Option.some.inj (found.symm.trans same), rfl⟩
    | counted new => exact absurd (found.symm.trans new) (by simp)
  | counted new counted =>
    cases again with
    | remembered same => exact absurd (new.symm.trans same) (by simp)
    | counted _ recounted =>
      obtain rfl := counted.unique recounted
      exact ⟨rfl, rfl⟩

/-- The words of the sanitizer for options, and usable names for all that were asked before. -/
structure ForOptions (s : Sanitizer) : Prop where
  reserved : s.reserved = keywords
  builtins : s.builtins = guardedBuiltins ++ protocolNames
  given : ∀ entry ∈ s.given, IsUsable entry.2

theorem forOptions_optionSanitizer : optionSanitizer.ForOptions :=
  ⟨rfl, rfl, by simp [optionSanitizer]⟩

namespace ForOptions

variable {s after : Sanitizer} {property answer : String}

theorem isTaken_iff (ready : s.ForOptions) {name : String}
    (small : StartsSmall isSmallChar name.toList) : s.isTaken name = true ↔ IsReserved name := by
  simp [isTaken, ready.reserved, ready.builtins, lowered_of_small small.all, IsReserved]

theorem usable_stem (ready : s.ForOptions) {name : String}
    (small : StartsSmall isSmallChar name.toList) : IsUsable (s.stem name "_") := by
  rw [stem]
  split
  · refine isUsable_of_append small (String.toList_append ..) (by simp) fun c member => ?_
    obtain rfl : c = '_' := by simpa using member
    decide
  · rename_i free
    exact ⟨small, fun reserved => free ((ready.isTaken_iff small).mpr reserved)⟩

theorem answers (ready : s.ForOptions) (proper : Definition.isProperty property.toList = true)
    (answered : s.Answers property .snake "_" answer after) :
    IsUsable answer ∧ after.ForOptions := by
  cases answered with
  | remembered found =>
    exact ⟨ready.given _ (Table.mem_of_lookup found), ready⟩
  | counted _ counted =>
    obtain ⟨n, rfl⟩ := counted.exists_numbered
    have usable := (ready.usable_stem (startsSmall_spelled proper)).numbered n
    refine ⟨usable, ready.reserved, ready.builtins, fun entry member => ?_⟩
    rcases List.mem_cons.mp member with rfl | old
    · exact usable
    · exact ready.given entry old

theorem addUsed (ready : s.ForOptions) (name : String) : (s.addUsed name).ForOptions :=
  ⟨ready.reserved, ready.builtins, ready.given⟩

end ForOptions

end Sanitizer

end OptionProtocol
