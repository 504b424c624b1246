import Mathlib.Data.List.Basic
import OptionProtocol.Name.Sanitizer

/-! Requests for names, and the one text that a sanitizer remembers each by. The text does not tell
where the name ends, so two requests can be taken for one. -/

set_option autoImplicit false

namespace OptionProtocol

/-- No style is the beginning of another one. -/
theorem NameCase.eq_of_append {style other : NameCase} {s t : List Char}
    (same : style.name.toList ++ '_' :: s = other.name.toList ++ '_' :: t) :
    style = other ∧ s = t := by
  cases style <;> cases other <;> simp_all [NameCase.name]

/-- Only one style has a second word, and that is a style too. -/
theorem NameCase.eq_of_ends {style other : NameCase}
    (ends : '_' :: other.name.toList <:+ style.name.toList) :
    style = .screamingSnake ∧ other = .snake := by
  cases style <;> cases other <;> revert ends <;> decide

namespace Sanitizer

/-- What a name is asked for with. -/
structure Request where
  name : String
  style : NameCase
  suffix : String := "_"
  deriving DecidableEq, Repr

namespace Request

/-- The text under which the request is remembered. -/
def key (r : Request) : String := request r.name r.style r.suffix

/-- The name of the second request goes on, behind an underscore, as the style and the suffix of
the first one do. -/
def Overlaps (short long : Request) : Prop :=
  ∃ more, long.name = short.name ++ "_" ++ more ∧
    short.style.name ++ "_" ++ short.suffix =
      more ++ "_" ++ long.style.name ++ "_" ++ long.suffix

/-- The requests are taken for one. -/
def Meets (r other : Request) : Prop := r = other ∨ r.Overlaps other ∨ other.Overlaps r

variable {r other short long : Request}

theorem toList_key (r : Request) :
    r.key.toList = r.name.toList ++ '_' :: (r.style.name.toList ++ '_' :: r.suffix.toList) := by
  simp [key, request]

theorem Overlaps.key_eq (overlap : short.Overlaps long) : short.key = long.key := by
  obtain ⟨more, named, rest⟩ := overlap
  have behind := congrArg String.toList rest
  apply String.toList_injective
  simp only [String.toList_append] at behind
  rw [toList_key, toList_key, named]
  simpa using behind

/-- The longer of two names goes on with a part of the text behind the shorter one. -/
theorem eq_or_overlaps_of_append {more : List Char}
    (named : long.name.toList = short.name.toList ++ more)
    (behind : '_' :: (short.style.name.toList ++ '_' :: short.suffix.toList) =
      more ++ '_' :: (long.style.name.toList ++ '_' :: long.suffix.toList)) :
    short = long ∨ short.Overlaps long := by
  cases more with
  | nil =>
    rw [List.append_nil] at named
    rw [List.nil_append, List.cons.injEq] at behind
    obtain ⟨styles, suffixes⟩ := NameCase.eq_of_append behind.2
    obtain ⟨name, style, suffix⟩ := short
    obtain ⟨otherName, otherStyle, otherSuffix⟩ := long
    obtain rfl : otherName = name := String.toList_injective named
    obtain rfl : suffix = otherSuffix := String.toList_injective suffixes
    obtain rfl := styles
    exact .inl rfl
  | cons c more =>
    rw [List.cons_append, List.cons.injEq] at behind
    obtain ⟨rfl, behind⟩ := behind
    refine .inr ⟨String.ofList more, String.toList_injective ?_, String.toList_injective ?_⟩
    · simpa using named
    · simpa using behind

/-- Requests are remembered by one text just if they meet. -/
theorem key_eq_iff : r.key = other.key ↔ r.Meets other := by
  constructor
  · intro same
    have chars := congrArg String.toList same
    rw [toList_key, toList_key, List.append_eq_append_iff] at chars
    obtain ⟨more, named, behind⟩ | ⟨more, named, behind⟩ := chars
    · exact (eq_or_overlaps_of_append named behind).imp_right .inl
    · obtain same | overlap := eq_or_overlaps_of_append named behind
      · exact .inl same.symm
      · exact .inr (.inr overlap)
  · rintro (rfl | overlap | overlap)
    · rfl
    · exact overlap.key_eq
    · exact overlap.key_eq.symm

/-- With the usual suffix only names in snake case that end like the style of screaming ones are
taken for others. -/
theorem overlaps_iff_of_usual (first : short.suffix = "_") (second : long.suffix = "_") :
    short.Overlaps long ↔
      short.style = .screamingSnake ∧ long.style = .snake ∧
        long.name = short.name ++ "_screaming" := by
  constructor
  · rintro ⟨more, named, rest⟩
    rw [first, second] at rest
    have ends : short.style.name.toList ++ ['_', '_'] =
        more.toList ++ '_' :: long.style.name.toList ++ ['_', '_'] := by
      simpa using congrArg String.toList rest
    have behind := List.append_cancel_right ends
    obtain ⟨screaming, snake⟩ := NameCase.eq_of_ends ⟨_, behind.symm⟩
    rw [screaming, snake] at behind
    obtain rfl : more = "screaming" := String.toList_injective (List.append_cancel_right behind.symm)
    exact ⟨screaming, snake, by rw [named, String.append_assoc]; rfl⟩
  · rintro ⟨screaming, snake, named⟩
    refine ⟨"screaming", by rw [named, String.append_assoc]; rfl, ?_⟩
    rw [first, second, screaming, snake]
    decide

end Request

end Sanitizer

end OptionProtocol
