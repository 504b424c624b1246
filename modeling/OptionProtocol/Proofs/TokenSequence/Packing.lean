import OptionProtocol.Proofs.Handler.Collecting
import OptionProtocol.Proofs.TokenSequence.Places

/-! Tokens packed together. The tokens left of a sequence can go on as a sequence of their own, in
which those that stood apart come to stand in a row. The same things are found in both, but for one
case: an announcement whose next token was taken before has no value where the tokens stayed in
their places, and may have one where they were packed. -/

set_option autoImplicit false

namespace OptionProtocol.TokenSequence

/-- Some tokens, the same tokens later on, and what became of those that were left in the beginning
once they were packed. -/
inductive Packed : List Token → List Token → List Token → Prop where
  | nil : Packed [] [] []
  | keep (text : String) (consumed : Bool) {start whole packed : List Token}
      (rest : Packed start whole packed) :
      Packed (⟨text, false⟩ :: start) (⟨text, consumed⟩ :: whole) (⟨text, consumed⟩ :: packed)
  | drop (text : String) {start whole packed : List Token} (rest : Packed start whole packed) :
      Packed (⟨text, true⟩ :: start) (⟨text, true⟩ :: whole) packed

/-- An announcement left for the flag stands before a token that is taken, and some token behind
that one is left. -/
def Gap (flag : String) (tokens : List Token) : Prop :=
  ∃ place taken later text, tokens[place]? = some ⟨announce flag, false⟩ ∧
    tokens[place + 1]? = some ⟨taken, true⟩ ∧
    place + 1 < later ∧ tokens[later]? = some ⟨text, false⟩

theorem Gap.cons {flag : String} {tokens : List Token} (gap : Gap flag tokens) (token : Token) :
    Gap flag (token :: tokens) := by
  obtain ⟨place, taken, later, text, here, behind, order, left⟩ := gap
  exact ⟨place + 1, taken, later + 1, text, here, behind, by omega, left⟩

/-- The same was found for the flag in the whole and in the packed tokens, or there is a gap. -/
inductive Alike (flag : String) (start : List Token) : Taken → Taken → Prop where
  | absent : Alike flag start .absent .absent
  | valueless : Alike flag start .valueless .valueless
  | value (text : String) {whole packed : List Token} (after : Packed start whole packed) :
      Alike flag start (.value text whole) (.value text packed)
  | gap (gap : Gap flag start) (packed : Taken) : Alike flag start .valueless packed

section

variable {flag : String} {start : List Token} {whole packed : Taken}
  (alike : Alike flag start whole packed) (text : String)

include alike

theorem Alike.keep (consumed : Bool) :
    Alike flag (⟨text, false⟩ :: start) (whole.after ⟨text, consumed⟩)
      (packed.after ⟨text, consumed⟩) := by
  cases alike with
  | absent => exact .absent
  | valueless => exact .valueless
  | value value after => exact .value value (.keep text consumed after)
  | gap gap => exact .gap (gap.cons _) _

theorem Alike.drop :
    Alike flag (⟨text, true⟩ :: start) (whole.after ⟨text, true⟩) packed := by
  cases alike with
  | absent => exact .absent
  | valueless => exact .valueless
  | value value after => exact .value value (.drop text after)
  | gap gap => exact .gap (gap.cons _) _

end

namespace Packed

variable {start whole packed : List Token} {flag : String}

theorem of_remaining (tokens : List Token) :
    Packed tokens tokens (unmarked (remaining ⟨tokens⟩)) := by
  induction tokens with
  | nil => exact .nil
  | cons token tokens ih =>
    obtain ⟨text, consumed⟩ := token
    rw [remaining_cons]
    cases consumed with
    | true => exact .drop text ih
    | false => exact .keep text false ih

theorem remaining_eq (related : Packed start whole packed) :
    remaining ⟨whole⟩ = remaining ⟨packed⟩ := by
  induction related with
  | nil => rfl
  | keep text consumed _ ih => rw [remaining_cons, remaining_cons, ih]
  | drop text _ ih => rw [remaining_cons, ih]; rfl

-- What heads the packed tokens was left in the beginning, wherever it stood.
theorem exists_left {token : Token} {more : List Token} (related : Packed start whole packed)
    (head : packed = token :: more) : ∃ place : Nat, start[place]? = some ⟨token.text, false⟩ := by
  induction related with
  | nil => cases head
  | keep text consumed _ _ =>
    cases head
    exact ⟨0, rfl⟩
  | drop text _ ih =>
    obtain ⟨place, left⟩ := ih head
    exact ⟨place + 1, left⟩

theorem takeFirst? (flag : String) (related : Packed start whole packed) :
    (TokenSequence.takeFirst? flag whole = none ∧ TokenSequence.takeFirst? flag packed = none) ∨
      ∃ wholeAfter packedAfter, TokenSequence.takeFirst? flag whole = some wholeAfter ∧
        TokenSequence.takeFirst? flag packed = some packedAfter ∧
        Packed start wholeAfter packedAfter := by
  induction related with
  | nil => exact .inl ⟨rfl, rfl⟩
  | @keep text consumed start whole packed rest ih =>
    unfold TokenSequence.takeFirst?
    split
    · exact .inr ⟨_, _, rfl, rfl, .keep text true rest⟩
    · obtain ⟨noWhole, noPacked⟩ | ⟨wholeAfter, packedAfter, inWhole, inPacked, after⟩ := ih
      · exact .inl ⟨by simp [noWhole], by simp [noPacked]⟩
      · exact .inr ⟨_, _, by simp [inWhole], by simp [inPacked], .keep text consumed after⟩
  | @drop text start whole packed _ ih =>
    have passed : Announces flag ⟨text, true⟩ = false := not_announces_of_consumed rfl
    simp only [TokenSequence.takeFirst?, passed, Bool.false_eq_true, if_false]
    obtain ⟨noWhole, noPacked⟩ | ⟨wholeAfter, packedAfter, inWhole, inPacked, after⟩ := ih
    · exact .inl ⟨by simp [noWhole], noPacked⟩
    · exact .inr ⟨_, _, by simp [inWhole], inPacked, .drop text after⟩

theorem takePair_announced (flag : String) (rest : List Token) :
    TokenSequence.takePair flag (⟨announce flag, false⟩ :: rest) =
      match rest with
      | [] => .valueless
      | next :: rest =>
          if next.consumed then .valueless
          else .value next.text (⟨announce flag, true⟩ :: next.taken :: rest) := by
  rw [TokenSequence.takePair.eq_def]
  cases rest <;> simp [Announces, Token.taken]

-- Both begin with the announcement. Only a token that was dropped can stand behind it in the whole
-- tokens and not in the packed ones, and if one of these is left, it was behind the dropped one.
theorem takePair_here (related : Packed start whole packed) :
    Alike flag (⟨announce flag, false⟩ :: start)
      (TokenSequence.takePair flag (⟨announce flag, false⟩ :: whole))
      (TokenSequence.takePair flag (⟨announce flag, false⟩ :: packed)) := by
  rw [takePair_announced, takePair_announced]
  cases related with
  | nil => exact .valueless
  | @keep text consumed start whole packed rest =>
    cases consumed with
    | true => exact .valueless
    | false => exact .value text (.keep _ true (.keep text true rest))
  | @drop text start whole packed rest =>
    cases packed with
    | nil => exact .valueless
    | cons next packed =>
      obtain ⟨place, left⟩ := rest.exists_left rfl
      exact .gap ⟨0, text, place + 2, next.text, rfl, rfl, by omega, left⟩ _

/-- What is found for an option with a value in the whole and in the packed tokens. -/
theorem takePair (related : Packed start whole packed) :
    Alike flag start (TokenSequence.takePair flag whole)
      (TokenSequence.takePair flag packed) := by
  induction related with
  | nil => exact .absent
  | @keep text consumed start whole packed rest ih =>
    cases found : Announces flag ⟨text, consumed⟩ with
    | true =>
      obtain ⟨rfl, rfl⟩ := announces_iff.mp found
      exact rest.takePair_here
    | false =>
      rw [takePair_cons found, takePair_cons found]
      exact ih.keep text consumed
  | @drop text start whole packed rest ih =>
    rw [takePair_cons (not_announces_of_consumed rfl)]
    exact ih.drop text

theorem takePair_cases (flag : String) (related : Packed start whole packed) :
    (TokenSequence.takePair flag whole = .absent ∧
      TokenSequence.takePair flag packed = .absent) ∨
    (TokenSequence.takePair flag whole = .valueless ∧
      (TokenSequence.takePair flag packed = .valueless ∨ Gap flag start)) ∨
    ∃ text wholeAfter packedAfter, TokenSequence.takePair flag whole = .value text wholeAfter ∧
      TokenSequence.takePair flag packed = .value text packedAfter ∧
      Packed start wholeAfter packedAfter := by
  have alike : Alike flag start _ _ := related.takePair
  generalize TokenSequence.takePair flag whole = inWhole at alike ⊢
  generalize TokenSequence.takePair flag packed = inPacked at alike ⊢
  cases alike with
  | absent => exact .inl ⟨rfl, rfl⟩
  | valueless => exact .inr (.inl ⟨rfl, .inl rfl⟩)
  | value text after => exact .inr (.inr ⟨text, _, _, rfl, rfl, after⟩)
  | gap gap => exact .inr (.inl ⟨rfl, .inr gap⟩)

/-- All occurrences of an option are read alike, or the whole tokens have no value for one. -/
theorem collect (decodeItem : String → Attempt Value) (flag : String)
    {start whole packed : List Token} (related : Packed start whole packed) :
    ((TokenSequence.collect decodeItem flag whole).1 =
        (TokenSequence.collect decodeItem flag packed).1 ∧
      Packed start (TokenSequence.collect decodeItem flag whole).2
        (TokenSequence.collect decodeItem flag packed).2) ∨
      (TokenSequence.collect decodeItem flag whole).1.result = .error (noValue flag) ∧
        Gap flag start := by
  obtain ⟨inWhole, inPacked⟩ | ⟨inWhole, inPacked | gap⟩ |
    ⟨text, wholeAfter, packedAfter, inWhole, inPacked, after⟩ := related.takePair_cases flag
  · rw [collect_absent (takePair_eq_absent_iff.mp inWhole),
      collect_absent (takePair_eq_absent_iff.mp inPacked)]
    exact .inl ⟨rfl, related⟩
  · rw [collect_valueless inWhole, collect_valueless inPacked]
    exact .inl ⟨rfl, related⟩
  · rw [collect_valueless inWhole]
    exact .inr ⟨rfl, gap⟩
  · rw [collect_value inWhole, collect_value inPacked]
    cases (decodeItem text).result with
    | error fault => exact .inl ⟨rfl, after⟩
    | ok value =>
      obtain ⟨same, left⟩ | ⟨none, gap⟩ := collect decodeItem flag after
      · exact .inl ⟨by rw [same], left⟩
      · exact .inr ⟨by rw [none]; rfl, gap⟩
termination_by freeCount whole
decreasing_by have := freeCount_takePair inWhole; omega

end Packed

end OptionProtocol.TokenSequence
