import OptionProtocol.Proofs.Name.Histories
import OptionProtocol.Proofs.Name.Words

/-! The names that the sanitizer for options gives out. In every style without hyphens they are
plain identifiers and no reserved words, whatever was asked for before. -/

set_option autoImplicit false

namespace OptionProtocol

namespace Name

open OptionType (isAsciiIdentifier)

/-- A plain identifier that is no reserved word, also in small letters. -/
structure IsSafe (name : String) : Prop where
  plain : isAsciiIdentifier name.toList = true
  free : ¬IsReserved (Text.lowered name)

variable {s t : List Char} {name : String}

theorem isAsciiIdentifier_cons_iff {c : Char} : isAsciiIdentifier (c :: s) = true ↔
    (c.isAlpha = true ∨ c = '_') ∧ ∀ d ∈ s, isWordChar d = true := by
  simp [isAsciiIdentifier, isWordChar]

theorem isWordChar_of_isAsciiIdentifier (plain : isAsciiIdentifier s = true) :
    ∀ c ∈ s, isWordChar c = true := by
  cases s with
  | nil => cases plain
  | cons c s =>
    obtain ⟨first, others⟩ := isAsciiIdentifier_cons_iff.mp plain
    refine List.forall_mem_cons.mpr ⟨?_, others⟩
    obtain letter | rfl := first
    · simp [isWordChar, Char.isAlphanum, letter]
    · rfl

theorem isAsciiIdentifier_append (plain : isAsciiIdentifier s = true)
    (word : ∀ c ∈ t, isWordChar c = true) : isAsciiIdentifier (s ++ t) = true := by
  cases s with
  | nil => cases plain
  | cons c s =>
    obtain ⟨first, others⟩ := isAsciiIdentifier_cons_iff.mp plain
    exact isAsciiIdentifier_cons_iff.mpr ⟨first, List.forall_mem_append.mpr ⟨others, word⟩⟩

/-- A word is an identifier as soon as no digit is in front. -/
theorem IsWord.isAsciiIdentifier_guarded {c : Char} (word : IsWord (c :: s)) :
    isAsciiIdentifier (if c.isDigit then '_' :: c :: s else c :: s) = true := by
  obtain ⟨first, others⟩ := List.forall_mem_cons.mp word.all
  split
  · exact isAsciiIdentifier_cons_iff.mpr ⟨.inr rfl, word.all⟩
  · rename_i other
    refine isAsciiIdentifier_cons_iff.mpr ⟨?_, others⟩
    simpa [isWordChar, Char.isAlphanum, other] using first

theorem isAsciiIdentifier_spelled {style : NameCase} (solid : style ≠ .kebab) (name : String) :
    isAsciiIdentifier (Sanitizer.spelled style name).toList = true := by
  have word := (isCleaned_clean name.toList).isWord_inCase solid
  rw [Sanitizer.spelled, Text.over, String.toList_ofList]
  cases chars : inCase style (Sanitizer.clean name.toList) with
  | nil => exact absurd chars word.filled
  | cons c rest =>
    rw [chars] at word
    exact word.isAsciiIdentifier_guarded

-- No reserved word ends with an underscore or a digit, and those are the same in small letters.
theorem isSafe_of_append {stem tail : List Char} (plain : isAsciiIdentifier stem = true)
    (spelled : name.toList = stem ++ tail) (filled : tail ≠ [])
    (all : ∀ c ∈ tail, isSmallChar c = true ∧ c.isLower = false) : IsSafe name := by
  have whole : isAsciiIdentifier name.toList = true := by
    rw [spelled]
    exact isAsciiIdentifier_append plain fun c member => isWordChar_of_isSmallChar (all c member).1
  refine ⟨whole, fun reserved => ?_⟩
  obtain ⟨c, last, letter⟩ := (Option.any_eq_true _ _).mp reserved.last
  rw [Text.lowered, String.toList_ofList, Text.lower_common, List.getLast?_map, spelled,
    List.getLast?_append_of_ne_nil _ filled] at last
  · obtain ⟨d, ends, rfl⟩ := Option.map_eq_some_iff.mp last
    obtain ⟨small, other⟩ := all d (List.mem_of_mem_getLast? ends)
    rw [toLower_of_isSmallChar small, other] at letter
    cases letter
  · exact fun c member => isCommon_of_isWordChar (isWordChar_of_isAsciiIdentifier whole c member)

theorem IsSafe.numbered (safe : IsSafe name) (n : Nat) : IsSafe (Sanitizer.numbered name n) := by
  by_cases zero : n = 0
  · rwa [zero]
  · refine isSafe_of_append safe.plain (Sanitizer.toList_numbered name n)
      (Sanitizer.numeral_ne_nil zero) fun c member => ?_
    exact isSmallChar_of_isDigit (Sanitizer.isDigit_of_mem_numeral member)

end Name

namespace Sanitizer

open Name

/-- The words of the sanitizer for options, and safe names for all requests with the usual suffix in
a style without hyphens. -/
structure GivesSafe (s : Sanitizer) : Prop where
  reserved : s.reserved = keywords
  builtins : s.builtins = guardedBuiltins ++ protocolNames
  given : ∀ (r : Request) (answer : String), r.suffix = "_" → r.style ≠ .kebab →
    s.given.lookup r.key = some answer → IsSafe answer

/-- A request for a name with hyphens meets only others like it. -/
theorem Request.Meets.solid {r other : Request} (meets : r.Meets other) (first : r.suffix = "_")
    (second : other.suffix = "_") (solid : r.style ≠ .kebab) : other.style ≠ .kebab := by
  obtain rfl | overlap | overlap := meets
  · exact solid
  · have styles := (overlaps_iff_of_usual first second).mp overlap
    simp [styles.2.1]
  · have styles := (overlaps_iff_of_usual second first).mp overlap
    simp [styles.1]

namespace GivesSafe

variable {s after : Sanitizer} {name answer : String} {calls : List Call}

theorem isTaken_iff (ready : s.GivesSafe) :
    s.isTaken name = true ↔ IsReserved (Text.lowered name) := by
  simp [isTaken, ready.reserved, ready.builtins, IsReserved]

theorem isSafe_stem (ready : s.GivesSafe)
    (plain : OptionType.isAsciiIdentifier name.toList = true) : IsSafe (s.stem name "_") := by
  rw [stem]
  split
  · refine isSafe_of_append plain (String.toList_append ..) (by simp) fun c member => ?_
    obtain rfl : c = '_' := by simpa using member
    decide
  · rename_i free
    exact ⟨plain, fun reserved => free (ready.isTaken_iff.mpr reserved)⟩

theorem answers (ready : s.GivesSafe) {r : Request} (usual : r.suffix = "_")
    (answered : s.Answers r.name r.style r.suffix answer after) :
    (r.style ≠ .kebab → IsSafe answer) ∧ after.GivesSafe := by
  cases answered with
  | remembered found => exact ⟨fun solid => ready.given r answer usual solid found, ready⟩
  | counted _ counted =>
    have safe (solid : r.style ≠ .kebab) : IsSafe answer := by
      obtain ⟨n, rfl⟩ := counted.exists_numbered
      rw [usual]
      exact (ready.isSafe_stem (isAsciiIdentifier_spelled solid r.name)).numbered n
    refine ⟨safe, ready.reserved, ready.builtins, fun other again suffix solid given => ?_⟩
    obtain ⟨same, rfl⟩ | old := Table.of_lookup_cons given
    · exact safe ((Request.key_eq_iff.mp same).solid suffix usual solid)
    · exact ready.given other again suffix solid old

theorem outcome (ready : s.GivesSafe) {call : Call}
    (usual : ∀ r, call = .sanitize r → r.suffix = "_") :
    (∀ r answer, (s.outcome call).1 = .answered r answer → r.style ≠ .kebab → IsSafe answer) ∧
      (s.outcome call).2.GivesSafe := by
  cases call with
  | sanitize r =>
    obtain ⟨safe, after⟩ :=
      ready.answers (usual r rfl) (s.answers_sanitize r.name r.style r.suffix)
    refine ⟨?_, after⟩
    rintro _ _ ⟨⟩
    exact safe
  | addUsed name => exact ⟨nofun, ready.reserved, ready.builtins, ready.given⟩
  | reset => exact ⟨nofun, ready.reserved, ready.builtins, by simp [Sanitizer.outcome, reset]⟩

theorem outcomes (ready : s.GivesSafe) (usual : ∀ r, .sanitize r ∈ calls → r.suffix = "_") :
    ∀ r answer, .answered r answer ∈ s.outcomes calls → r.style ≠ .kebab → IsSafe answer := by
  induction calls generalizing s with
  | nil => exact fun _ _ member => absurd member List.not_mem_nil
  | cons call calls ih =>
    obtain ⟨here, after⟩ := ready.outcome fun r same => usual r (same ▸ List.mem_cons_self)
    intro r answer member solid
    obtain first | later := List.mem_cons.mp member
    · exact here r answer first.symm solid
    · exact ih after (fun r inside => usual r (List.mem_cons_of_mem _ inside)) r answer later solid

end GivesSafe

theorem givesSafe_optionSanitizer : optionSanitizer.GivesSafe :=
  ⟨rfl, rfl, by simp [optionSanitizer]⟩

/-- Every run of calls with the usual suffix ends, with an answer to every request, and every answer
in a style without hyphens is safe to use. -/
theorem isSafe_outcomes {calls : List Call} (usual : ∀ r, .sanitize r ∈ calls → r.suffix = "_") :
    (∀ events, optionSanitizer.Runs calls events ↔ events = optionSanitizer.outcomes calls) ∧
      (optionSanitizer.outcomes calls).map Event.call = calls ∧
      ∀ r answer, .answered r answer ∈ optionSanitizer.outcomes calls → r.style ≠ .kebab →
        IsSafe answer :=
  ⟨fun _ => runs_iff, map_call_outcomes optionSanitizer calls,
    givesSafe_optionSanitizer.outcomes usual⟩

/-- Names of all kinds in all styles, with names that are in use and a new beginning. -/
def mixedCalls : List Call := [
  .sanitize ⟨"2nd größe", .camel, "_"⟩, .sanitize ⟨"--", .pascal, "_"⟩, .addUsed "CLASS_",
  .sanitize ⟨"class", .kebab, "_"⟩, .sanitize ⟨"class", .screamingSnake, "_"⟩, .reset,
  .sanitize ⟨"class", .pascal, "_"⟩]

theorem isSafe_outcomes_mixed :
    (∀ r, .sanitize r ∈ mixedCalls → r.suffix = "_") ∧
      optionSanitizer.Runs mixedCalls [
        .answered ⟨"2nd größe", .camel, "_"⟩ "_2ndGrE", .answered ⟨"--", .pascal, "_"⟩ "Option",
        .added "CLASS_", .answered ⟨"class", .kebab, "_"⟩ "class_",
        .answered ⟨"class", .screamingSnake, "_"⟩ "CLASS_1", .reset,
        .answered ⟨"class", .pascal, "_"⟩ "Class_"] ∧
      IsSafe "_2ndGrE" ∧ IsSafe "CLASS_1" := by
  have usual : ∀ r, .sanitize r ∈ mixedCalls → r.suffix = "_" := by
    simp [mixedCalls]
  have run : optionSanitizer.outcomes mixedCalls = [
      .answered ⟨"2nd größe", .camel, "_"⟩ "_2ndGrE", .answered ⟨"--", .pascal, "_"⟩ "Option",
      .added "CLASS_", .answered ⟨"class", .kebab, "_"⟩ "class_",
      .answered ⟨"class", .screamingSnake, "_"⟩ "CLASS_1", .reset,
      .answered ⟨"class", .pascal, "_"⟩ "Class_"] := by
    decide +kernel
  obtain ⟨runs, _, safe⟩ := isSafe_outcomes usual
  rw [run] at runs safe
  exact ⟨usual, (runs _).mpr rfl, safe ⟨"2nd größe", .camel, "_"⟩ _ (by simp) (by decide),
    safe ⟨"class", .screamingSnake, "_"⟩ _ (by simp) (by decide)⟩

end Sanitizer

end OptionProtocol
