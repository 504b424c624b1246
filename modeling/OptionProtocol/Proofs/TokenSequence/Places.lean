import OptionProtocol.Proofs.TokenSequence.Taking

/-! Taking by places. What is taken is found at the first announcement left and, for a value, right
behind it, and taking marks these places and nothing else. Marks at places that an option has no
business with are neither seen nor touched when it is looked for. -/

set_option autoImplicit false

namespace OptionProtocol

def Token.taken (token : Token) : Token := { token with consumed := true }

@[simp] theorem Token.text_taken (token : Token) : token.taken.text = token.text := rfl

@[simp] theorem Token.consumed_taken (token : Token) : token.taken.consumed = true := rfl

@[simp] theorem Token.taken_taken (token : Token) : token.taken.taken = token.taken := rfl

namespace TokenSequence

/-- The tokens with the one at a place marked as taken. -/
def mark (tokens : List Token) (place : Nat) : List Token := tokens.modify place Token.taken

def markAll (tokens : List Token) (places : List Nat) : List Token := places.foldl mark tokens

@[simp] theorem texts_ofTexts (texts : List String) : (ofTexts texts).texts = texts := by
  simp [ofTexts, TokenSequence.texts, Function.comp_def]

section

variable {tokens : List Token} {flag : String} {place : Nat}

theorem getElem?_mark (tokens : List Token) (place i : Nat) :
    (mark tokens place)[i]? =
      if place = i then (tokens[i]?).map Token.taken else tokens[i]? := by
  rw [mark, List.getElem?_modify]
  by_cases same : place = i <;> simp [same]

@[simp] theorem mark_cons_succ (token : Token) (rest : List Token) (place : Nat) :
    mark (token :: rest) (place + 1) = token :: mark rest place := rfl

theorem mark_comm (tokens : List Token) (first second : Nat) :
    mark (mark tokens first) second = mark (mark tokens second) first := by
  apply List.ext_getElem?
  intro i
  simp only [getElem?_mark]
  by_cases atFirst : first = i <;> by_cases atSecond : second = i <;>
    simp [atFirst, atSecond]

@[simp] theorem texts_mark (tokens : List Token) (place : Nat) :
    (mark tokens place).map Token.text = tokens.map Token.text := by
  apply List.ext_getElem?
  intro i
  by_cases same : place = i <;> simp [getElem?_mark, same, Function.comp_def]

theorem takeFirst?_eq (flag : String) (tokens : List Token) :
    takeFirst? flag tokens = (tokens.findIdx? (Announces flag)).map (mark tokens) := by
  induction tokens with
  | nil => rfl
  | cons token rest ih =>
    rw [takeFirst?, List.findIdx?_cons]
    split
    · rfl
    · simp [ih, Function.comp_def]

/-- What is found for an option with a value whose announcement stands at the place. -/
def pairAt (tokens : List Token) (place : Nat) : Taken :=
  match tokens[place + 1]? with
  | some next =>
      if next.consumed then .valueless
      else .value next.text (mark (mark tokens place) (place + 1))
  | none => .valueless

theorem pairAt_cons_succ (token : Token) (rest : List Token) (place : Nat) :
    pairAt (token :: rest) (place + 1) = (pairAt rest place).after token := by
  simp only [pairAt, List.getElem?_cons_succ, mark_cons_succ]
  split
  · split <;> rfl
  · rfl

theorem takePair_eq (flag : String) (tokens : List Token) :
    takePair flag tokens =
      match tokens.findIdx? (Announces flag) with
      | some place => pairAt tokens place
      | none => .absent := by
  induction tokens with
  | nil => rfl
  | cons token rest ih =>
    rw [List.findIdx?_cons]
    cases found : Announces flag token with
    | true =>
      rw [takePair.eq_def]
      simp only [found, if_true]
      cases rest <;> rfl
    | false =>
      rw [takePair_cons found, ih]
      cases place : rest.findIdx? (Announces flag) with
      | some place => simp [pairAt_cons_succ]
      | none => rfl

theorem announces_iff_eq {token : Token} :
    Announces flag token = true ↔ token = ⟨announce flag, false⟩ := by
  cases token
  simp [announces_iff, and_comm]

theorem findIdx?_announces (found : tokens.findIdx? (Announces flag) = some place) :
    tokens[place]? = some ⟨announce flag, false⟩ := by
  obtain ⟨inside, announces, _⟩ := List.findIdx?_eq_some_iff_getElem.mp found
  rw [List.getElem?_eq_getElem inside, announces_iff_eq.mp announces]

theorem eq_of_free {token : Token} (free : ¬token.consumed = true) :
    token = ⟨token.text, false⟩ := by
  cases token
  simpa using free

theorem takePair_eq_value {text : String} {after : List Token}
    (taken : takePair flag tokens = .value text after) :
    ∃ place, tokens.findIdx? (Announces flag) = some place ∧
      tokens[place + 1]? = some ⟨text, false⟩ ∧
      after = markAll tokens [place, place + 1] := by
  rw [takePair_eq] at taken
  cases found : tokens.findIdx? (Announces flag) with
  | none => simp [found] at taken
  | some place =>
    simp only [found, pairAt] at taken
    split at taken
    · rename_i next behind
      split at taken
      · cases taken
      · rename_i free
        cases taken
        exact ⟨place, rfl, by simpa [behind] using eq_of_free free, rfl⟩
    · cases taken

theorem getElem?_markAll (tokens : List Token) (places : List Nat) (i : Nat) :
    (markAll tokens places)[i]? =
      if i ∈ places then (tokens[i]?).map Token.taken else tokens[i]? := by
  induction places generalizing tokens with
  | nil => simp [markAll]
  | cons place places ih =>
    rw [markAll, List.foldl_cons, ← markAll, ih, getElem?_mark]
    by_cases here : place = i
    · subst here
      by_cases later : place ∈ places <;> simp [later, Function.comp_def]
    · simp [here, Ne.symm here]

@[simp] theorem texts_markAll (tokens : List Token) (places : List Nat) :
    (markAll tokens places).map Token.text = tokens.map Token.text := by
  induction places generalizing tokens with
  | nil => rfl
  | cons place places ih => exact (ih _).trans (texts_mark tokens place)

-- Marks are never cleared, so a token that is left now was left before.
theorem getElem?_of_mark {i : Nat} {text : String}
    (left : (mark tokens place)[i]? = some ⟨text, false⟩) : tokens[i]? = some ⟨text, false⟩ := by
  rw [getElem?_mark] at left
  split at left
  · obtain ⟨token, _, same⟩ := Option.map_eq_some_iff.mp left
    exact absurd (congrArg Token.consumed same) (by simp)
  · exact left

theorem getElem?_of_markAll {places : List Nat} {i : Nat} {text : String}
    (left : (markAll tokens places)[i]? = some ⟨text, false⟩) :
    tokens[i]? = some ⟨text, false⟩ := by
  induction places generalizing tokens with
  | nil => exact left
  | cons place places ih => exact getElem?_of_mark (ih left)

theorem pair_infix_iff {α : Type} {items : List α} {first second : α} :
    [first, second] <:+: items ↔ ∃ i, items[i]? = some first ∧ items[i + 1]? = some second := by
  rw [List.infix_iff_getElem?]
  constructor
  · rintro ⟨i, _, both⟩
    refine ⟨i, ?_, ?_⟩
    · simpa using both 0 (by simp)
    · simpa [Nat.add_comm] using both 1 (by simp)
  · rintro ⟨i, here, behind⟩
    obtain ⟨inside, _⟩ := List.getElem?_eq_some_iff.mp behind
    refine ⟨i, by simp; omega, fun j bound => ?_⟩
    match j, bound with
    | 0, _ => simpa using here
    | 1, _ => simpa [Nat.add_comm] using behind

/-- The place is that of an announcement left for the flag, or the one right behind it. -/
def Concerns (flag : String) (tokens : List Token) (place : Nat) : Prop :=
  ∃ i, tokens[i]? = some ⟨announce flag, false⟩ ∧ (place = i ∨ place = i + 1)

theorem Concerns.of_markAll {places : List Nat}
    (concerns : Concerns flag (markAll tokens places) place) : Concerns flag tokens place := by
  obtain ⟨i, left, here⟩ := concerns
  exact ⟨i, getElem?_of_markAll left, here⟩

theorem announces_taken (token : Token) :
    Announces flag token.taken = false := not_announces_of_consumed rfl

namespace Passed

variable {front rest : List Token} {token next : Token} (passed : Passed flag front)
  (announced : Announces flag token = true)

include passed announced

theorem takePair_valueless (blocked : ∀ next ∈ rest.head?, next.consumed = true) :
    TokenSequence.takePair flag (front ++ token :: rest) = .valueless := by
  rw [passed.takePair, takePair.eq_def]
  cases rest with
  | nil => simp [announced, Taken.behind_valueless]
  | cons next rest =>
    have consumed : next.consumed = true := blocked next rfl
    simp [announced, consumed, Taken.behind_valueless]

theorem takePair_value (free : ¬next.consumed = true) :
    TokenSequence.takePair flag (front ++ token :: next :: rest) =
      .value next.text (front ++ token.taken :: next.taken :: rest) := by
  rw [passed.takePair, takePair.eq_def]
  simp [announced, free, Taken.behind_value, Token.taken]

end Passed

theorem findIdx?_mark (apart : ¬Concerns flag tokens place) :
    (mark tokens place).findIdx? (Announces flag) = tokens.findIdx? (Announces flag) := by
  have same : (mark tokens place).map (Announces flag) = tokens.map (Announces flag) := by
    apply List.ext_getElem?
    intro i
    rw [List.getElem?_map, List.getElem?_map, getElem?_mark]
    by_cases here : place = i
    · cases found : tokens[i]? with
      | none => simp [here]
      | some token =>
        -- The token at the marked place announced nothing before it was marked, either.
        cases announces : Announces flag token with
        | false => simp [here, announces, announces_taken]
        | true =>
          rw [announces_iff_eq.mp announces] at found
          exact absurd ⟨i, found, .inl here⟩ apart
    · simp [here]
  have lifted := congrArg (List.findIdx? id) same
  rw [List.findIdx?_map, List.findIdx?_map] at lifted
  exact lifted

end

end TokenSequence

end OptionProtocol
