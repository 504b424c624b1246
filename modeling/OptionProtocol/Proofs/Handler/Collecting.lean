import Mathlib.Data.List.Forall2
import OptionProtocol.Handler.Decoding
import OptionProtocol.Proofs.Except
import OptionProtocol.Proofs.TokenSequence.Taking

/-! Reading all occurrences of an option: what it takes from the tokens left, and how it
goes through pairs that were written for the option. A reading that succeeds comes to its end
or reads an item and goes on, which the proofs follow by recursion on the tokens left. -/

set_option autoImplicit false

namespace OptionProtocol.TokenSequence

/-- The tokens written for an option that may occur often, given the text of each item. -/
def pairs (flag : String) (texts : List String) : List String :=
  texts.flatMap fun text => [announce flag, text]

@[simp] theorem pairs_nil (flag : String) : pairs flag [] = [] := rfl

@[simp] theorem pairs_cons (flag text : String) (texts : List String) :
    pairs flag (text :: texts) = announce flag :: text :: pairs flag texts := rfl

/-- The texts stand for the values, each by itself. -/
abbrev Decoded (decodeItem : String → Attempt Value) : List String → List Value → Prop :=
  List.Forall₂ fun text value => (decodeItem text).result = .ok value

variable {decodeItem : String → Attempt Value} {flag : String}

theorem Decoded.exists_of_mem {texts : List String} {values : List Value}
    (decoded : Decoded decodeItem texts values) {value : Value} (member : value ∈ values) :
    ∃ text ∈ texts, (decodeItem text).result = .ok value := by
  induction decoded with
  | nil => simp at member
  | @cons text _ texts _ first _ ih =>
    rcases List.mem_cons.mp member with rfl | member
    · exact ⟨text, by simp, first⟩
    · obtain ⟨other, inside, read⟩ := ih member
      exact ⟨other, by simp [inside], read⟩

theorem collect_absent {tokens : List Token} (absent : announce flag ∉ remaining ⟨tokens⟩) :
    collect decodeItem flag tokens = (.done [], tokens) := by
  rw [← takePair_eq_absent_iff] at absent
  rw [collect]
  split
  · rfl
  · rename_i taken
    simp [absent] at taken
  · rename_i taken
    simp [absent] at taken

theorem collect_valueless {tokens : List Token} (taken : takePair flag tokens = .valueless) :
    collect decodeItem flag tokens = (.fail (noValue flag), tokens) := by
  rw [collect]
  split
  · rename_i other
    simp [taken] at other
  · rfl
  · rename_i other
    simp [taken] at other

theorem collect_value {tokens after : List Token} {text : String}
    (taken : takePair flag tokens = .value text after) :
    collect decodeItem flag tokens =
      match (decodeItem text).result with
      | .error fault => ({ decodeItem text with result := .error fault }, after)
      | .ok value =>
          ({ result := (collect decodeItem flag after).1.result.map (value :: ·),
             rejected := (decodeItem text).rejected ++ (collect decodeItem flag after).1.rejected },
           (collect decodeItem flag after).2) := by
  rw [collect]
  split
  · rename_i other
    simp [taken] at other
  · rename_i other
    simp [taken] at other
  · rename_i text' after' other
    rw [taken] at other
    cases other
    rfl

theorem collect_item {tokens after : List Token} {text : String} {value : Value}
    (taken : takePair flag tokens = .value text after)
    (read : (decodeItem text).result = .ok value) :
    (collect decodeItem flag tokens).1.result =
        (collect decodeItem flag after).1.result.map (value :: ·) ∧
      (collect decodeItem flag tokens).2 = (collect decodeItem flag after).2 := by
  rw [collect_value taken, read]
  exact ⟨rfl, rfl⟩

/-- What was read came to its end, or began with an item. -/
theorem collect_cases {tokens : List Token} {items : List Value}
    (read : (collect decodeItem flag tokens).1.result = .ok items) :
    (announce flag ∉ remaining ⟨tokens⟩ ∧ items = []) ∨
      ∃ text after value more, takePair flag tokens = .value text after ∧
        (decodeItem text).result = .ok value ∧
        (collect decodeItem flag after).1.result = .ok more ∧ items = value :: more := by
  cases taken : takePair flag tokens with
  | absent =>
    have absent := takePair_eq_absent_iff.mp taken
    rw [collect_absent absent] at read
    exact .inl ⟨absent, (Except.ok.inj read).symm⟩
  | valueless =>
    rw [collect_valueless taken] at read
    cases read
  | value text after =>
    rw [collect_value taken] at read
    cases item : (decodeItem text).result with
    | error fault => simp [item] at read
    | ok value =>
      simp only [item] at read
      obtain ⟨more, inner, same⟩ := map_eq_ok.mp read
      exact .inr ⟨text, after, value, more, rfl, item, inner, same.symm⟩

/-- Pairs written for the option are read one by one, whatever stands behind them. -/
theorem collect_pairs (flag : String) {texts : List String} {items : List Value}
    (decoded : Decoded decodeItem texts items) {front : List Token} (spent : Spent front)
    (rest : List String) :
    ∃ grown, Spent grown ∧
      (collect decodeItem flag (front ++ unmarked (pairs flag texts ++ rest))).1.result =
        (collect decodeItem flag (grown ++ unmarked rest)).1.result.map (items ++ ·) ∧
      (collect decodeItem flag (front ++ unmarked (pairs flag texts ++ rest))).2 =
        (collect decodeItem flag (grown ++ unmarked rest)).2 := by
  induction decoded generalizing front with
  | nil =>
    refine ⟨front, spent, ?_, rfl⟩
    cases inner : (collect decodeItem flag (front ++ unmarked rest)).1.result <;>
      simp [inner, Except.map]
  | @cons text item texts items read _ ih =>
    obtain ⟨middle, spent, taken⟩ :=
      takePair_own flag spent text (pairs flag texts ++ rest)
    obtain ⟨grown, spent, result, tokens⟩ := ih spent
    refine ⟨grown, spent, ?_, ?_⟩
    · rw [pairs_cons, List.cons_append, List.cons_append, (collect_item taken read).1, result]
      cases (collect decodeItem flag (grown ++ unmarked rest)).1.result <;> rfl
    · rw [pairs_cons, List.cons_append, List.cons_append, (collect_item taken read).2, tokens]

-- The converse of `collect_pairs`: what was read from written pairs was read from each of them.
theorem collect_pairs_ok {texts : List String} {front : List Token} (spent : Spent front)
    {rest : List String} {items : List Value}
    (read : (collect decodeItem flag (front ++ unmarked (pairs flag texts ++ rest))).1.result =
      .ok items) :
    ∃ own others grown, items = own ++ others ∧ Decoded decodeItem texts own ∧ Spent grown ∧
      (collect decodeItem flag (grown ++ unmarked rest)).1.result = .ok others ∧
      (collect decodeItem flag (front ++ unmarked (pairs flag texts ++ rest))).2 =
        (collect decodeItem flag (grown ++ unmarked rest)).2 := by
  induction texts generalizing front items with
  | nil => exact ⟨[], items, front, rfl, .nil, spent, read, rfl⟩
  | cons text texts ih =>
    obtain ⟨middle, spent, taken⟩ :=
      takePair_own flag spent text (pairs flag texts ++ rest)
    rw [pairs_cons, List.cons_append, List.cons_append] at read ⊢
    obtain ⟨absent, _⟩ | ⟨_, _, value, more, found, item, inner, rfl⟩ := collect_cases read
    -- The pair in front is there to be taken.
    · rw [takePair_eq_absent_iff.mpr absent] at taken
      cases taken
    · rw [taken] at found
      cases found
      obtain ⟨own, others, grown, rfl, decoded, spent, left, tokens⟩ := ih spent inner
      refine ⟨value :: own, others, grown, rfl, .cons item decoded, spent, left, ?_⟩
      rw [(collect_item taken item).2, tokens]

theorem absent_of_collect_nil {tokens : List Token}
    (read : (collect decodeItem flag tokens).1.result = .ok []) :
    announce flag ∉ remaining ⟨tokens⟩ := by
  obtain ⟨absent, _⟩ | ⟨_, _, _, _, _, _, _, filled⟩ := collect_cases read
  · exact absent
  · cases filled

-- Items are only found where the option is announced.
theorem exists_of_collect_cons {tokens : List Token} {item : Value} {items : List Value}
    (read : (collect decodeItem flag tokens).1.result = .ok (item :: items)) :
    ∃ text after, takePair flag tokens = .value text after ∧
      (decodeItem text).result = .ok item := by
  obtain ⟨_, empty⟩ | ⟨text, after, _, _, taken, read, _, same⟩ := collect_cases read
  · cases empty
  · cases same
    exact ⟨text, after, taken, read⟩

-- More pairs would put an announcement where the tokens behind begin with something else.
theorem pairs_append_cancel {texts others : List String} (longer : texts.length ≤ others.length)
    {rest more : List String} (ends : rest.head? ≠ some (announce flag))
    (same : pairs flag others ++ more = pairs flag texts ++ rest) :
    others = texts ∧ more = rest := by
  induction texts generalizing others with
  | nil =>
    cases others with
    | nil => exact ⟨rfl, same⟩
    | cons text others =>
      rw [pairs_nil, List.nil_append] at same
      rw [← same] at ends
      exact absurd rfl ends
  | cons text texts ih =>
    cases others with
    | nil => simp at longer
    | cons other others =>
      simp only [pairs_cons, List.cons_append, List.cons.injEq, true_and] at same
      obtain ⟨rfl, same⟩ := same
      obtain ⟨rfl, tails⟩ := ih (by simpa using longer) same
      exact ⟨rfl, tails⟩

theorem sublist_of_takePair {tokens after : List Token} {text : String}
    (taken : takePair flag tokens = .value text after) :
    (remaining ⟨after⟩).Sublist (remaining ⟨tokens⟩) ∧ text ∈ remaining ⟨tokens⟩ := by
  obtain ⟨before, behind, first, second⟩ := remaining_takePair taken
  rw [first, second]
  refine ⟨(List.Sublist.refl before).append ?_, by simp⟩
  exact (List.sublist_cons_self text behind).cons (announce flag)

theorem remaining_collect (decodeItem : String → Attempt Value) (flag : String)
    (tokens : List Token) :
    (remaining ⟨(collect decodeItem flag tokens).2⟩).Sublist (remaining ⟨tokens⟩) := by
  cases taken : takePair flag tokens with
  | absent =>
    rw [collect_absent (takePair_eq_absent_iff.mp taken)]
  | valueless =>
    rw [collect_valueless taken]
  | value text after =>
    have shrunk := (sublist_of_takePair taken).1
    rw [collect_value taken]
    cases (decodeItem text).result with
    | error fault => exact shrunk
    | ok value => exact (remaining_collect decodeItem flag after).trans shrunk
termination_by freeCount tokens
decreasing_by have := freeCount_takePair taken; omega

/-- When all occurrences are read, none is left, and each item was a token left before. -/
theorem collect_ok {tokens : List Token} {items : List Value}
    (read : (collect decodeItem flag tokens).1.result = .ok items) :
    ∃ texts, Decoded decodeItem texts items ∧ (∀ text ∈ texts, text ∈ remaining ⟨tokens⟩) ∧
      announce flag ∉ remaining ⟨(collect decodeItem flag tokens).2⟩ := by
  obtain ⟨absent, rfl⟩ | ⟨text, after, value, more, taken, item, inner, rfl⟩ := collect_cases read
  · rw [collect_absent absent]
    exact ⟨[], .nil, by simp, absent⟩
  · obtain ⟨shrunk, inside⟩ := sublist_of_takePair taken
    obtain ⟨texts, decoded, members, none⟩ := collect_ok inner
    rw [(collect_item taken item).2]
    refine ⟨text :: texts, .cons item decoded, ?_, none⟩
    intro other member
    rcases List.mem_cons.mp member with rfl | member
    · exact inside
    · exact shrunk.subset (members other member)
termination_by freeCount tokens
decreasing_by have := freeCount_takePair taken; omega

end OptionProtocol.TokenSequence
