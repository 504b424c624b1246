import OptionProtocol.Proofs.Handler.Collecting
import OptionProtocol.Proofs.TokenSequence.Places

/-! Runs of calls on a token sequence, and the takes they make. A take owns the places of the
tokens it took: one for a bare announcement, and two in a row for a value. Whatever a call does to
the marks is a row of takes, and its reply tells what was taken. -/

set_option autoImplicit false

namespace OptionProtocol.TokenSequence

/-- What can be asked of a token sequence. -/
inductive Call where
  | find (flag : String)
  | takeFlag (flag : String)
  | takeValue (flag : String)
  | parse (flag : String) (default : Value) (kind : Kind) (base : Option ClassId)
  | parseFlag (flag : String)
  | parseArray (flag : String) (default : Value) (kind : Kind) (base : Option ClassId)

def Call.flag : Call → String
  | .find flag | .takeFlag flag | .takeValue flag | .parse flag _ _ _ | .parseFlag flag
  | .parseArray flag _ _ _ => flag

inductive Reply where
  | place (found : Option Nat)
  | present (found : Bool)
  | text (found : Except OptionFault (Option String))
  | value (attempt : Attempt Value)

def Call.run (reader : ObjectReader) : Call → TokenSequence → Reply × TokenSequence
  | .find flag, s => (.place (s.find? flag), s)
  | .takeFlag flag, s | .parseFlag flag, s =>
      let (found, s) := s.takeFlag flag
      (.present found, s)
  | .takeValue flag, s =>
      match s.takeValue flag with
      | .absent => (.text (.ok none), s)
      | .valueless => (.text (.error (noValue flag)), s)
      | .value text tokens => (.text (.ok (some text)), ⟨tokens⟩)
  | .parse flag default kind base, s =>
      let (attempt, s) := s.parse reader flag default kind base
      (.value attempt, s)
  | .parseArray flag default kind base, s =>
      let (attempt, s) := s.parseArray reader flag default kind base
      (.value attempt, s)

/-- One call after the other, whether they succeed or not: each with its reply, and the sequence
afterwards. -/
def runAll (reader : ObjectReader) :
    List Call → TokenSequence → List (Call × Reply) × TokenSequence
  | [], s => ([], s)
  | call :: calls, s =>
      let (reply, s) := call.run reader s
      let (answers, s) := runAll reader calls s
      ((call, reply) :: answers, s)

theorem runAll_append (reader : ObjectReader) (first second : List Call) (s : TokenSequence) :
    runAll reader (first ++ second) s =
      ((runAll reader first s).1 ++ (runAll reader second (runAll reader first s).2).1,
        (runAll reader second (runAll reader first s).2).2) := by
  induction first generalizing s with
  | nil => rfl
  | cons call first ih => simp only [List.cons_append, runAll, ih]

/-- A take that succeeded: what was asked for, where it stood, and the text of a value. -/
inductive Take where
  | flag (flag : String) (place : Nat)
  | value (flag : String) (place : Nat) (text : String)
  deriving DecidableEq, Repr

namespace Take

def asked : Take → String
  | .flag asked _ => asked
  | .value asked _ _ => asked

/-- The places that belong to the take. -/
def places : Take → List Nat
  | .flag _ place => [place]
  | .value _ place _ => [place, place + 1]

/-- The texts at the places are what was asked for and what was given. -/
def Holds (texts : List String) : Take → Prop
  | .flag asked place => texts[place]? = some (announce asked)
  | .value asked place text =>
      texts[place]? = some (announce asked) ∧ texts[place + 1]? = some text

end Take

/-- A take on some tokens, and the tokens after it. -/
inductive Took (tokens : List Token) : Take → List Token → Prop where
  | flag {flag : String} {place : Nat} (found : tokens.findIdx? (Announces flag) = some place) :
      Took tokens (.flag flag place) (mark tokens place)
  | value {flag text : String} {place : Nat}
      (found : tokens.findIdx? (Announces flag) = some place)
      (behind : tokens[place + 1]? = some ⟨text, false⟩) :
      Took tokens (.value flag place text) (markAll tokens [place, place + 1])

/-- A row of takes, each on the tokens that the one before it left. -/
inductive Trail : List Token → List Take → List Token → Prop where
  | done (tokens : List Token) : Trail tokens [] tokens
  | step {tokens middle after : List Token} {take : Take} {takes : List Take}
      (first : Took tokens take middle) (rest : Trail middle takes after) :
      Trail tokens (take :: takes) after

variable {tokens middle after : List Token} {take : Take} {takes more : List Take}

theorem exists_took_flag {flag : String} (taken : takeFirst? flag tokens = some after) :
    ∃ place, Took tokens (.flag flag place) after := by
  rw [takeFirst?_eq] at taken
  obtain ⟨place, found, rfl⟩ := Option.map_eq_some_iff.mp taken
  exact ⟨place, .flag found⟩

theorem exists_took_value {flag text : String}
    (taken : takePair flag tokens = .value text after) :
    ∃ place, Took tokens (.value flag place text) after := by
  obtain ⟨place, found, behind, rfl⟩ := takePair_eq_value taken
  exact ⟨place, .value found behind⟩

namespace Took

theorem eq_markAll (took : Took tokens take after) : after = markAll tokens take.places := by
  cases took <;> rfl

theorem free (took : Took tokens take after) {place : Nat} (member : place ∈ take.places) :
    ∃ text, tokens[place]? = some ⟨text, false⟩ := by
  cases took with
  | flag found =>
    obtain rfl := List.mem_singleton.mp member
    exact ⟨_, findIdx?_announces found⟩
  | value found behind =>
    obtain rfl | member := List.mem_cons.mp member
    · exact ⟨_, findIdx?_announces found⟩
    · obtain rfl := List.mem_singleton.mp member
      exact ⟨_, behind⟩

theorem concerns (took : Took tokens take after) {place : Nat} (member : place ∈ take.places) :
    Concerns take.asked tokens place := by
  cases took with
  | flag found => exact ⟨_, findIdx?_announces found, .inl (List.mem_singleton.mp member)⟩
  | value found behind =>
    exact ⟨_, findIdx?_announces found, by simpa [Take.places] using member⟩

theorem holds (took : Took tokens take after) : take.Holds (tokens.map Token.text) := by
  cases took with
  | flag found => simp [Take.Holds, findIdx?_announces found]
  | value found behind => simp [Take.Holds, findIdx?_announces found, behind]

theorem nodup_places (take : Take) : take.places.Nodup := by
  cases take <;> simp [Take.places]

end Took

namespace Trail

theorem append (first : Trail tokens takes middle) (second : Trail middle more after) :
    Trail tokens (takes ++ more) after := by
  induction first with
  | done => exact second
  | step took _ ih => exact .step took (ih second)

theorem eq_markAll (trail : Trail tokens takes after) :
    after = markAll tokens (takes.flatMap Take.places) := by
  induction trail with
  | done => rfl
  | @step _ _ _ take takes took _ ih =>
    rw [ih, took.eq_markAll, List.flatMap_cons, markAll, markAll, markAll, List.foldl_append]

/-- What a take owns was left when the row began. -/
theorem free (trail : Trail tokens takes after) {place : Nat}
    (member : place ∈ takes.flatMap Take.places) : ∃ text, tokens[place]? = some ⟨text, false⟩ := by
  induction trail with
  | done => simp at member
  | step took _ ih =>
    rw [List.flatMap_cons, List.mem_append] at member
    rcases member with own | later
    · exact took.free own
    · obtain ⟨text, left⟩ := ih later
      rw [took.eq_markAll] at left
      exact ⟨text, getElem?_of_markAll left⟩

theorem concerns (trail : Trail tokens takes after) {flag : String}
    (asked : ∀ take ∈ takes, take.asked = flag) {place : Nat}
    (member : place ∈ takes.flatMap Take.places) : Concerns flag tokens place := by
  induction trail with
  | done => simp at member
  | step took _ ih =>
    obtain ⟨here, asked⟩ := List.forall_mem_cons.mp asked
    rw [List.flatMap_cons, List.mem_append] at member
    rcases member with own | later
    · exact here ▸ took.concerns own
    · have later := ih asked later
      rw [took.eq_markAll] at later
      exact later.of_markAll

/-- No place is owned twice: what a take owns is marked, and only what is left is taken. -/
theorem nodup (trail : Trail tokens takes after) : (takes.flatMap Take.places).Nodup := by
  induction trail with
  | done => exact List.nodup_nil
  | @step _ _ _ take takes took rest ih =>
    rw [List.flatMap_cons, List.nodup_append]
    refine ⟨Took.nodup_places take, ih, ?_⟩
    rintro place own other later rfl
    obtain ⟨text, left⟩ := rest.free later
    rw [took.eq_markAll, getElem?_markAll] at left
    obtain ⟨text, here⟩ := took.free own
    simp only [own, if_true, here, Option.map_some, Option.some.injEq] at left
    exact absurd (congrArg Token.consumed left) (by simp)

theorem holds (trail : Trail tokens takes after) {take : Take} (member : take ∈ takes) :
    take.Holds (tokens.map Token.text) := by
  induction trail with
  | done => simp at member
  | step took _ ih =>
    rcases List.mem_cons.mp member with rfl | later
    · exact took.holds
    · have later := ih later
      rwa [took.eq_markAll, texts_markAll] at later

end Trail

end OptionProtocol.TokenSequence
