import Mathlib.Data.List.Infix
import OptionProtocol.Proofs.TokenSequence.Conservation

/-! Calls with different flags are independent of each other. A call neither sees nor moves a mark
that does not concern its flag, and what it marks concerns its flag only. So two calls can change
places as long as no announcement of one is taken for the value of the other. -/

set_option autoImplicit false

namespace OptionProtocol.TokenSequence

section

variable {tokens : List Token} {flag : String} {place : Nat}

theorem takeFirst?_mark (separate : ¬Concerns flag tokens place) :
    takeFirst? flag (mark tokens place) = (takeFirst? flag tokens).map (mark · place) := by
  rw [takeFirst?_eq, takeFirst?_eq, findIdx?_mark separate, Option.map_map]
  congr 1
  funext first
  exact mark_comm tokens place first

/-- The same find with other tokens behind it. -/
def Taken.map (change : List Token → List Token) : Taken → Taken
  | .value text tokens => .value text (change tokens)
  | other => other

theorem takePair_mark (separate : ¬Concerns flag tokens place) :
    takePair flag (mark tokens place) = (takePair flag tokens).map (mark · place) := by
  rw [takePair_eq, takePair_eq, findIdx?_mark separate]
  cases found : tokens.findIdx? (Announces flag) with
  | none => rfl
  | some first =>
    have behind : place ≠ first + 1 := fun same =>
      separate ⟨first, findIdx?_announces found, .inr same⟩
    simp only [pairAt, getElem?_mark, behind, if_false]
    cases tokens[first + 1]? with
    | none => rfl
    | some next =>
      cases taken : next.consumed with
      | true => simp [taken, Taken.map]
      | false =>
        rw [mark_comm tokens place first, mark_comm (mark tokens first) place (first + 1)]
        simp [taken, Taken.map]

theorem collect_mark (decodeItem : String → Attempt Value) {tokens : List Token}
    (separate : ¬Concerns flag tokens place) :
    collect decodeItem flag (mark tokens place) =
      ((collect decodeItem flag tokens).1, mark (collect decodeItem flag tokens).2 place) := by
  have marked := takePair_mark separate
  cases taken : takePair flag tokens with
  | absent =>
    rw [taken] at marked
    rw [collect_absent (takePair_eq_absent_iff.mp taken),
      collect_absent (takePair_eq_absent_iff.mp marked)]
  | valueless =>
    rw [taken] at marked
    rw [collect_valueless taken, collect_valueless marked]
  | value text after =>
    rw [taken] at marked
    obtain ⟨_, took⟩ := exists_took_value taken
    have later : ¬Concerns flag after place := fun concerns =>
      separate (Concerns.of_markAll (took.eq_markAll ▸ concerns))
    rw [collect_value taken, collect_value marked]
    cases (decodeItem text).result with
    | error fault => rfl
    | ok value => simp only [collect_mark decodeItem later]
termination_by freeCount tokens
decreasing_by have := freeCount_takePair taken; omega

end

variable {s : TokenSequence}

section

variable (reader : ObjectReader) {flag : String} {place : Nat}
  (separate : ¬Concerns flag s.tokens place)

include separate

theorem takeFlag_mark :
    takeFlag ⟨mark s.tokens place⟩ flag =
      ((s.takeFlag flag).1, ⟨mark (s.takeFlag flag).2.tokens place⟩) := by
  simp only [takeFlag, takeFirst?_mark separate]
  cases takeFirst? flag s.tokens <;> rfl

theorem parse_mark (default : Value) (kind : Kind) (base : Option ClassId) :
    parse reader ⟨mark s.tokens place⟩ flag default kind base =
      ((s.parse reader flag default kind base).1,
        ⟨mark (s.parse reader flag default kind base).2.tokens place⟩) := by
  unfold parse
  by_cases bare : kind = .flag
  · simp only [bare, if_true, takeFlag_mark separate]
  · simp only [bare, if_false, takeValue, takePair_mark separate]
    cases takePair flag s.tokens <;> rfl

theorem parseArray_mark (default : Value) (kind : Kind) (base : Option ClassId) :
    parseArray reader ⟨mark s.tokens place⟩ flag default kind base =
      ((s.parseArray reader flag default kind base).1,
        ⟨mark (s.parseArray reader flag default kind base).2.tokens place⟩) := by
  unfold parseArray
  by_cases bare : kind = .flag
  · simp only [bare, if_true]
  · simp only [bare, if_false, collect_mark _ separate]

end

/-- A call does the same whether or not a place that does not concern it is marked. -/
theorem Call.run_mark (reader : ObjectReader) {call : Call} {place : Nat}
    (separate : ¬Concerns call.flag s.tokens place) :
    call.run reader ⟨mark s.tokens place⟩ =
      ((call.run reader s).1, ⟨mark (call.run reader s).2.tokens place⟩) := by
  cases call with
  | find flag => exact congrArg (fun found => (Reply.place found, _)) (findIdx?_mark separate)
  | takeFlag flag | parseFlag flag =>
    have marked := takeFlag_mark separate
    simp only [Call.flag] at marked
    simp only [Call.run, marked]
  | takeValue flag =>
    have marked := takePair_mark separate
    simp only [Call.flag] at marked
    simp only [Call.run, TokenSequence.takeValue, marked]
    cases takePair flag s.tokens <;> rfl
  | parse flag default kind base =>
    have marked := parse_mark reader separate default kind base
    simp only [Call.flag] at marked
    simp only [Call.run, marked]
  | parseArray flag default kind base =>
    have marked := parseArray_mark reader separate default kind base
    simp only [Call.flag] at marked
    simp only [Call.run, marked]

theorem Call.run_markAll (reader : ObjectReader) {call : Call} {places : List Nat}
    (separate : ∀ place ∈ places, ¬Concerns call.flag s.tokens place) :
    call.run reader ⟨markAll s.tokens places⟩ =
      ((call.run reader s).1, ⟨markAll (call.run reader s).2.tokens places⟩) := by
  induction places generalizing s with
  | nil => rfl
  | cons place places ih =>
    obtain ⟨first, rest⟩ := List.forall_mem_cons.mp separate
    have later (other : Nat) (member : other ∈ places) :
        ¬Concerns call.flag (markAll s.tokens [place]) other := fun concerns =>
      rest other member concerns.of_markAll
    have marked := ih (s := ⟨mark s.tokens place⟩) later
    rw [Call.run_mark reader first] at marked
    exact marked

theorem markAll_comm (tokens : List Token) (first second : List Nat) :
    markAll (markAll tokens first) second = markAll (markAll tokens second) first := by
  apply List.ext_getElem?
  intro i
  simp only [getElem?_markAll]
  by_cases inFirst : i ∈ first <;> by_cases inSecond : i ∈ second <;> simp [inFirst, inSecond]

/-- No announcement left for one of the flags stands directly before one left for another. -/
def Separate (flags : List String) (s : TokenSequence) : Prop :=
  ∀ first ∈ flags, ∀ second ∈ flags, first ≠ second →
    ¬[⟨announce first, false⟩, ⟨announce second, false⟩] <:+: s.tokens

instance (flags : List String) (s : TokenSequence) : Decidable (Separate flags s) :=
  inferInstanceAs (Decidable (∀ first ∈ flags, ∀ second ∈ flags, _ → _))

-- No place can be the announcement of the one flag and the value of the other, or both of a kind.
theorem Separate.not_concerns {flags : List String} (separate : Separate flags s)
    {first second : String} (one : first ∈ flags) (other : second ∈ flags)
    (distinct : first ≠ second) {place : Nat} (concerns : Concerns first s.tokens place) :
    ¬Concerns second s.tokens place := by
  obtain ⟨i, atFirst, here⟩ := concerns
  rintro ⟨j, atSecond, there⟩
  have apart : i ≠ j := by
    rintro rfl
    rw [atFirst] at atSecond
    exact distinct (announce_injective (congrArg Token.text (Option.some.inj atSecond)))
  have ahead : j ≠ i + 1 := by
    rintro rfl
    exact separate first one second other distinct (pair_infix_iff.mpr ⟨i, atFirst, atSecond⟩)
  have behind : i ≠ j + 1 := by
    rintro rfl
    exact separate second other first one distinct.symm (pair_infix_iff.mpr ⟨j, atSecond, atFirst⟩)
  omega

theorem Separate.mono {flags fewer : List String} (separate : Separate flags s)
    (subset : fewer ⊆ flags) : Separate fewer s :=
  fun first one second other => separate first (subset one) second (subset other)

theorem Separate.markAll {flags : List String} (separate : Separate flags s) (places : List Nat) :
    Separate flags ⟨TokenSequence.markAll s.tokens places⟩ := by
  intro first one second other distinct adjacent
  obtain ⟨i, atFirst, atSecond⟩ := pair_infix_iff.mp adjacent
  exact separate first one second other distinct
    (pair_infix_iff.mpr ⟨i, getElem?_of_markAll atFirst, getElem?_of_markAll atSecond⟩)

/-- What a call marks concerns its flag. -/
theorem Call.exists_places (reader : ObjectReader) (call : Call) (s : TokenSequence) :
    ∃ places, (call.run reader s).2 = ⟨TokenSequence.markAll s.tokens places⟩ ∧
      ∀ place ∈ places, Concerns call.flag s.tokens place := by
  obtain ⟨takes, trail, reports⟩ := call.run_trail reader s
  refine ⟨takes.flatMap Take.places, ?_, fun place member => trail.concerns reports.asked member⟩
  rw [← trail.eq_markAll]

/-- Two calls with different flags can change places. -/
theorem Call.run_swap (reader : ObjectReader) {first second : Call}
    (distinct : first.flag ≠ second.flag) (separate : Separate [first.flag, second.flag] s) :
    (second.run reader (first.run reader s).2).1 = (second.run reader s).1 ∧
      (first.run reader (second.run reader s).2).1 = (first.run reader s).1 ∧
      (second.run reader (first.run reader s).2).2 =
        (first.run reader (second.run reader s).2).2 := by
  obtain ⟨firstPlaces, firstState, own⟩ := first.exists_places reader s
  obtain ⟨secondPlaces, secondState, others⟩ := second.exists_places reader s
  have secondLate := Call.run_markAll reader fun place member =>
    separate.not_concerns (by simp) (by simp) distinct (own place member)
  have firstLate := Call.run_markAll reader fun place member =>
    separate.not_concerns (by simp) (by simp) distinct.symm (others place member)
  rw [firstState, secondState, secondLate, firstLate, firstState, secondState]
  exact ⟨rfl, rfl, congrArg TokenSequence.mk (markAll_comm s.tokens secondPlaces firstPlaces)⟩

/-- Calls with distinct flags, of which none is announced directly before another, give the same
replies in any order, and leave the same tokens marked. -/
theorem runAll_perm (reader : ObjectReader) {calls others : List Call} (perm : calls.Perm others)
    {s : TokenSequence} (distinct : (calls.map Call.flag).Nodup)
    (separate : Separate (calls.map Call.flag) s) :
    (runAll reader calls s).1.Perm (runAll reader others s).1 ∧
      (runAll reader calls s).2 = (runAll reader others s).2 := by
  induction perm generalizing s with
  | nil => exact ⟨.refl _, rfl⟩
  | @cons call calls others _ ih =>
    have later : Separate (calls.map Call.flag) (call.run reader s).2 := by
      obtain ⟨places, state, _⟩ := call.exists_places reader s
      rw [state]
      exact (separate.mono (List.subset_cons_self _ _)).markAll places
    obtain ⟨replies, state⟩ := ih (List.nodup_cons.mp distinct).2 later
    exact ⟨replies.cons _, state⟩
  | swap first second calls =>
    have different : second.flag ≠ first.flag := by
      simp only [List.map_cons, List.nodup_cons, List.mem_cons, not_or] at distinct
      exact distinct.1.1
    obtain ⟨firstReply, secondReply, state⟩ :=
      Call.run_swap reader different (separate.mono (by simp))
    simp only [runAll, firstReply, secondReply, state]
    exact ⟨.swap _ _ _, trivial⟩
  | trans firstPerm _ ihFirst ihSecond =>
    have flags := firstPerm.map Call.flag
    obtain ⟨firstReplies, firstState⟩ := ihFirst distinct separate
    obtain ⟨secondReplies, secondState⟩ :=
      ihSecond (flags.nodup_iff.mp distinct) (separate.mono flags.symm.subset)
    exact ⟨firstReplies.trans secondReplies, firstState.trans secondState⟩

-- The value of one call is unreadable and that of another is missing, and the third one succeeds.
theorem runAll_perm_faults :
    ([.parse "rate" (.int 1) .integer none, .parseArray "n" (.list []) .text none,
      .parseFlag "v"].map Call.flag).Nodup ∧
    Separate ["rate", "n", "v"] (ofTexts ["-n", "x", "-v", "left", "-rate", "fast", "-n"]) ∧
    (runAll readObject [.parse "rate" (.int 1) .integer none,
        .parseArray "n" (.list []) .text none, .parseFlag "v"]
      (ofTexts ["-n", "x", "-v", "left", "-rate", "fast", "-n"])).1.Perm
      (runAll readObject [.parseFlag "v", .parseArray "n" (.list []) .text none,
        .parse "rate" (.int 1) .integer none]
      (ofTexts ["-n", "x", "-v", "left", "-rate", "fast", "-n"])).1 ∧
    (runAll readObject [.parse "rate" (.int 1) .integer none,
        .parseArray "n" (.list []) .text none, .parseFlag "v"]
      (ofTexts ["-n", "x", "-v", "left", "-rate", "fast", "-n"])).2 =
      (runAll readObject [.parseFlag "v", .parseArray "n" (.list []) .text none,
        .parse "rate" (.int 1) .integer none]
      (ofTexts ["-n", "x", "-v", "left", "-rate", "fast", "-n"])).2 :=
  ⟨by decide, by decide, runAll_perm readObject (List.reverse_perm _).symm (by decide) (by decide)⟩

end OptionProtocol.TokenSequence
