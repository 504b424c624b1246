import Mathlib.Data.List.DropRight
import OptionProtocol.Proofs.Name.Requests
import OptionProtocol.Proofs.Name.Sanitizing

/-! Runs of calls on a sanitizer, and what each call came to. Since the last reset a name is given
out to requests that are remembered by one text, and a request with a new text gets a new name. -/

set_option autoImplicit false

namespace OptionProtocol.Sanitizer

open Name (optionSanitizer)

inductive Call where
  | sanitize (request : Request)
  | addUsed (name : String)
  | reset
  deriving DecidableEq, Repr

/-- What a call came to. -/
inductive Event where
  | answered (request : Request) (answer : String)
  | added (name : String)
  | reset
  deriving DecidableEq, Repr

namespace Event

/-- The name that is in use from then on. -/
def name? : Event → Option String
  | .answered _ answer => some answer
  | .added name => some name
  | .reset => none

def call : Event → Call
  | .answered request _ => .sanitize request
  | .added name => .addUsed name
  | .reset => .reset

def isReset (event : Event) : Bool := event == .reset

end Event

/-- What the call comes to, and the sanitizer afterwards. -/
def outcome (s : Sanitizer) : Call → Event × Sanitizer
  | .sanitize r =>
      let (answer, after) := s.sanitize r.name r.style r.suffix
      (.answered r answer, after)
  | .addUsed name => (.added name, s.addUsed name)
  | .reset => (.reset, s.reset)

def outcomes (s : Sanitizer) : List Call → List Event
  | [] => []
  | call :: rest => (s.outcome call).1 :: (s.outcome call).2.outcomes rest

/-- The events since the last reset. -/
def recent (events : List Event) : List Event := events.rtakeWhile fun event => !event.isReset

/-- An answer to a request that meets none before it is a name that was neither given out nor added
before. -/
def GivesNew (meets : Request → Request → Prop) (history : List Event) : Prop :=
  ∀ before r answer behind, history = before ++ .answered r answer :: behind →
    (∀ other again, .answered other again ∈ before → ¬meets r other) →
    ∀ event ∈ before, event.name? ≠ some answer

/-- Two answers are one name just if their requests meet, and requests that meet none before them
get new names. -/
structure KeepsApart (meets : Request → Request → Prop) (history : List Event) : Prop where
  apart : ∀ r other answer again, .answered r answer ∈ history → .answered other again ∈ history →
    (answer = again ↔ meets r other)
  fresh : GivesNew meets history

/-! What each call comes to, as counting up for a name comes to it. -/

/-- The calls come to the events, with the loop that counts up for a name gone through. -/
inductive Runs : Sanitizer → List Call → List Event → Prop where
  | nil {s : Sanitizer} : Runs s [] []
  | sanitize {s after : Sanitizer} {r : Request} {answer : String} {calls : List Call}
      {events : List Event} (answered : s.Answers r.name r.style r.suffix answer after)
      (later : Runs after calls events) :
      Runs s (.sanitize r :: calls) (.answered r answer :: events)
  | addUsed {s : Sanitizer} {name : String} {calls : List Call} {events : List Event}
      (later : Runs (s.addUsed name) calls events) :
      Runs s (.addUsed name :: calls) (.added name :: events)
  | reset {s : Sanitizer} {calls : List Call} {events : List Event}
      (later : Runs s.reset calls events) : Runs s (.reset :: calls) (.reset :: events)

theorem runs_outcomes (s : Sanitizer) (calls : List Call) : s.Runs calls (s.outcomes calls) := by
  induction calls generalizing s with
  | nil => exact .nil
  | cons call calls ih =>
    cases call with
    | sanitize r => exact .sanitize (s.answers_sanitize r.name r.style r.suffix) (ih _)
    | addUsed name => exact .addUsed (ih _)
    | reset => exact .reset (ih _)

theorem Runs.unique {s : Sanitizer} {calls : List Call} {events others : List Event}
    (run : s.Runs calls events) (again : s.Runs calls others) : events = others := by
  induction run generalizing others with
  | nil =>
    cases again
    rfl
  | sanitize answered _ ih =>
    cases again with
    | sanitize reanswered later =>
      obtain ⟨rfl, rfl⟩ := answered.unique reanswered
      rw [ih later]
  | addUsed _ ih =>
    cases again with
    | addUsed later => rw [ih later]
  | reset _ ih =>
    cases again with
    | reset later => rw [ih later]

/-- Every run ends, and comes to the outcomes of its calls. -/
theorem runs_iff {s : Sanitizer} {calls : List Call} {events : List Event} :
    s.Runs calls events ↔ events = s.outcomes calls := by
  constructor
  · exact fun run => run.unique (runs_outcomes s calls)
  · rintro rfl
    exact runs_outcomes s calls

theorem map_call_outcomes (s : Sanitizer) (calls : List Call) :
    (s.outcomes calls).map Event.call = calls := by
  induction calls generalizing s with
  | nil => rfl
  | cons call calls ih =>
    rw [outcomes, List.map_cons, ih]
    cases call <;> rfl

/-! Histories that a sanitizer knows of. -/

/-- The sanitizer remembers the answers of the history and nothing else, each under the texts of one
request, and has all its names in use. -/
structure Knows (s : Sanitizer) (history : List Event) : Prop where
  remembers : ∀ r answer, .answered r answer ∈ history → s.given.lookup r.key = some answer
  asked : ∀ key answer, s.given.lookup key = some answer →
    ∃ r, .answered r answer ∈ history ∧ r.key = key
  used : ∀ event ∈ history, ∀ name ∈ event.name?, name ∈ s.used
  injective : ∀ key other answer, s.given.lookup key = some answer →
    s.given.lookup other = some answer → key = other

variable {s : Sanitizer} {history : List Event}

theorem knows_nil (none : s.given = []) : s.Knows [] where
  remembers _ _ member := by cases member
  asked key answer found := by simp [none] at found
  used _ member := by cases member
  injective key _ answer found := by simp [none] at found

/-- A name is in use from the event on that it comes from. -/
theorem Knows.used_concat (knows : s.Knows history) {event : Event} {used : List String}
    (old : s.used ⊆ used) (new : ∀ name ∈ event.name?, name ∈ used) :
    ∀ other ∈ history ++ [event], ∀ name ∈ other.name?, name ∈ used := by
  refine List.forall_mem_append.mpr ⟨fun other member name inside => ?_, ?_⟩
  · exact old (knows.used other member name inside)
  · rwa [List.forall_mem_singleton]

theorem Knows.addUsed (knows : s.Knows history) (name : String) :
    (s.addUsed name).Knows (history ++ [.added name]) where
  remembers r answer member := knows.remembers r answer (by simpa using member)
  asked key answer found := by
    obtain ⟨r, member, same⟩ := knows.asked key answer found
    exact ⟨r, List.mem_append_left _ member, same⟩
  used := knows.used_concat (List.subset_cons_self ..) (by rintro _ ⟨⟩; exact List.mem_cons_self)
  injective := knows.injective

theorem mem_concat_answered {r other : Request} {answer again : String} :
    .answered other again ∈ history ++ [.answered r answer] ↔
      .answered other again ∈ history ∨ other = r ∧ again = answer := by
  simp

theorem Knows.remembered (knows : s.Knows history) {r : Request} {answer : String}
    (found : s.given.lookup r.key = some answer) : s.Knows (history ++ [.answered r answer]) where
  remembers other again member := by
    obtain old | ⟨rfl, rfl⟩ := mem_concat_answered.mp member
    · exact knows.remembers other again old
    · exact found
  asked key again given := by
    obtain ⟨other, member, same⟩ := knows.asked key again given
    exact ⟨other, List.mem_append_left _ member, same⟩
  used := by
    obtain ⟨first, asked, _⟩ := knows.asked r.key answer found
    refine knows.used_concat (List.Subset.refl _) ?_
    rintro _ ⟨⟩
    exact knows.used _ asked answer rfl
  injective := knows.injective

/-- A name in use is no answer to a text that is new. -/
theorem Knows.lookup_ne (knows : s.Knows history) {answer : String} (free : answer ∉ s.used)
    (key : String) : s.given.lookup key ≠ some answer := by
  intro found
  obtain ⟨r, member, _⟩ := knows.asked key answer found
  exact free (knows.used _ member answer rfl)

/-- A name that is not in use can be given to a request with a new text. -/
theorem Knows.given (knows : s.Knows history) {r : Request} {answer : String}
    (new : s.given.lookup r.key = none) (free : answer ∉ s.used) :
    Knows { s with given := (r.key, answer) :: s.given, used := answer :: s.used }
      (history ++ [.answered r answer]) where
  remembers other again member := by
    obtain old | ⟨rfl, rfl⟩ := mem_concat_answered.mp member
    · have found := knows.remembers other again old
      have unlike : other.key ≠ r.key := fun same => by cases (same ▸ new).symm.trans found
      exact (Table.lookup_cons_of_ne unlike answer s.given).trans found
    · exact List.lookup_cons_self
  asked key again found := by
    obtain ⟨rfl, rfl⟩ | old := Table.of_lookup_cons found
    · exact ⟨r, by simp, rfl⟩
    · obtain ⟨other, member, same⟩ := knows.asked key again old
      exact ⟨other, List.mem_append_left _ member, same⟩
  used := by
    refine knows.used_concat (List.subset_cons_self ..) ?_
    rintro _ ⟨⟩
    exact List.mem_cons_self
  injective key other again found same := by
    obtain ⟨rfl, rfl⟩ | old := Table.of_lookup_cons found <;>
      obtain ⟨rfl, here⟩ | older := Table.of_lookup_cons same
    · rfl
    · exact absurd older (knows.lookup_ne free other)
    · exact absurd (here ▸ old) (knows.lookup_ne free key)
    · exact knows.injective key other again old older

theorem Knows.answered (knows : s.Knows history) {r : Request} {answer : String}
    {after : Sanitizer} (answered : s.Answers r.name r.style r.suffix answer after) :
    after.Knows (history ++ [.answered r answer]) := by
  cases answered with
  | remembered found => exact knows.remembered found
  | counted new counted => exact knows.given new counted.free

theorem Knows.apart (knows : s.Knows history) {r other : Request} {answer again : String}
    (first : .answered r answer ∈ history) (second : .answered other again ∈ history) :
    answer = again ↔ r.Meets other := by
  have found := knows.remembers r answer first
  have refound := knows.remembers other again second
  rw [← Request.key_eq_iff]
  constructor
  · rintro rfl
    exact knows.injective _ _ _ found refound
  · intro same
    rw [same] at found
    exact Option.some.inj (found.symm.trans refound)

/-! What is new. -/

theorem givesNew_nil (meets : Request → Request → Prop) : GivesNew meets [] := by
  simp [GivesNew]

theorem GivesNew.concat {meets : Request → Request → Prop} {event : Event}
    (kept : GivesNew meets history)
    (last : ∀ r answer, event = .answered r answer →
      (∀ other again, .answered other again ∈ history → ¬meets r other) →
      ∀ event ∈ history, event.name? ≠ some answer) : GivesNew meets (history ++ [event]) := by
  intro before r answer behind split
  obtain rfl | ⟨behind, final, rfl⟩ := List.eq_nil_or_concat' behind
  · obtain ⟨rfl, same⟩ := List.append_inj' split rfl
    exact last r answer (List.singleton_inj.mp same)
  · rw [← List.cons_append, ← List.append_assoc] at split
    exact kept before r answer behind (List.append_inj' split rfl).1

theorem Knows.fresh (knows : s.Knows history) {r : Request} {answer : String} {after : Sanitizer}
    (answered : s.Answers r.name r.style r.suffix answer after)
    (new : ∀ other again, .answered other again ∈ history → ¬r.Meets other) :
    ∀ event ∈ history, event.name? ≠ some answer := by
  cases answered with
  | remembered found =>
    obtain ⟨other, member, same⟩ := knows.asked r.key answer found
    exact absurd (Request.key_eq_iff.mp same.symm) (new other answer member)
  | counted _ counted => exact fun event member named => counted.free (knows.used event member _ named)

/-! Whole runs. -/

theorem recent_concat (events : List Event) (event : Event) :
    recent (events ++ [event]) = if event.isReset then [] else recent events ++ [event] := by
  rw [recent, List.rtakeWhile_concat]
  cases event.isReset <;> simp [recent]

/-- What one call keeps. -/
theorem Knows.outcome {before : List Event} (knows : s.Knows (recent before))
    (fresh : GivesNew Request.Meets (recent before)) (call : Call) :
    (s.outcome call).2.Knows (recent (before ++ [(s.outcome call).1])) ∧
      GivesNew Request.Meets (recent (before ++ [(s.outcome call).1])) := by
  rw [recent_concat]
  cases call with
  | sanitize r =>
    have answered := s.answers_sanitize r.name r.style r.suffix
    refine ⟨knows.answered answered, fresh.concat ?_⟩
    rintro _ _ ⟨⟩
    exact knows.fresh answered
  | addUsed name => exact ⟨knows.addUsed name, fresh.concat nofun⟩
  | reset => exact ⟨knows_nil rfl, givesNew_nil Request.Meets⟩

theorem Knows.outcomes {before : List Event} (knows : s.Knows (recent before))
    (fresh : GivesNew Request.Meets (recent before)) (calls : List Call) :
    KeepsApart Request.Meets (recent (before ++ s.outcomes calls)) := by
  induction calls generalizing s before with
  | nil =>
    rw [Sanitizer.outcomes, List.append_nil]
    exact ⟨fun _ _ _ _ => knows.apart, fresh⟩
  | cons call calls ih =>
    obtain ⟨knows, fresh⟩ := knows.outcome fresh call
    rw [Sanitizer.outcomes, List.append_cons]
    exact ih knows fresh

/-- Whatever a sanitizer is called for, since the last reset it gives one name to requests that meet
and different names to others, and a name that is not in use to a request that meets none before. -/
theorem keepsApart_recent (s : Sanitizer) (calls : List Call) :
    KeepsApart Request.Meets (recent (s.reset.outcomes calls)) := by
  have knows : s.reset.Knows (recent []) := knows_nil rfl
  exact knows.outcomes (givesNew_nil Request.Meets) calls

/-- A name in snake case that ends like the style that the second name is asked for in. -/
def screamingCalls : List Call := [
  .sanitize ⟨"x_screaming", .snake, "_"⟩, .sanitize ⟨"x", .screamingSnake, "_"⟩]

-- The second request is new and gets the name of the first one.
theorem not_keepsApart_screaming :
    optionSanitizer.outcomes screamingCalls = [
        .answered ⟨"x_screaming", .snake, "_"⟩ "x_screaming",
        .answered ⟨"x", .screamingSnake, "_"⟩ "x_screaming"] ∧
      ¬KeepsApart (· = ·) (recent (optionSanitizer.outcomes screamingCalls)) ∧
      ¬GivesNew (· = ·) (recent (optionSanitizer.outcomes screamingCalls)) := by
  have run : optionSanitizer.outcomes screamingCalls = [
      .answered ⟨"x_screaming", .snake, "_"⟩ "x_screaming",
      .answered ⟨"x", .screamingSnake, "_"⟩ "x_screaming"] := by
    decide +kernel
  refine ⟨run, fun kept => ?_, fun new => ?_⟩
  · rw [run] at kept
    have one := (kept.apart ⟨"x_screaming", .snake, "_"⟩ ⟨"x", .screamingSnake, "_"⟩
      "x_screaming" "x_screaming" (by decide) (by decide)).mp rfl
    revert one
    decide
  · rw [run] at new
    exact new [.answered ⟨"x_screaming", .snake, "_"⟩ "x_screaming"] ⟨"x", .screamingSnake, "_"⟩
      "x_screaming" [] (by decide) (by simp) _ List.mem_cons_self rfl

end OptionProtocol.Sanitizer
