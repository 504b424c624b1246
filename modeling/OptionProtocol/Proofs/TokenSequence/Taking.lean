import OptionProtocol.TokenSequence

/-! What taking a token or a pair does to the tokens left. Tokens in front that are all taken
make no difference, so a sequence is followed as a spent part and the texts behind it. -/

set_option autoImplicit false

namespace OptionProtocol.TokenSequence

theorem announce_injective : Function.Injective announce := by
  intro first second same
  simpa [announce, String.toList_inj] using congrArg String.toList same

/-- Tokens that nothing has taken. -/
def unmarked (texts : List String) : List Token := texts.map fun text => { text }

/-- All tokens are taken. -/
def Spent (tokens : List Token) : Prop := ∀ token ∈ tokens, token.consumed = true

theorem Spent.append {front back : List Token} (first : Spent front) (second : Spent back) :
    Spent (front ++ back) := by
  intro token member
  rcases List.mem_append.mp member with member | member
  · exact first token member
  · exact second token member

theorem remaining_cons (token : Token) (rest : List Token) :
    remaining ⟨token :: rest⟩ =
      (if token.consumed then [] else [token.text]) ++ remaining ⟨rest⟩ := by
  cases mark : token.consumed <;> simp [remaining, mark]

theorem remaining_append (front back : List Token) :
    remaining ⟨front ++ back⟩ = remaining ⟨front⟩ ++ remaining ⟨back⟩ := by
  simp [remaining]

theorem remaining_spent {tokens : List Token} (spent : Spent tokens) : remaining ⟨tokens⟩ = [] := by
  simpa [remaining, Spent] using spent

@[simp] theorem remaining_unmarked (texts : List String) : remaining ⟨unmarked texts⟩ = texts := by
  induction texts with
  | nil => rfl
  | cons text texts ih =>
    rw [unmarked, List.map_cons, remaining_cons]
    simpa [unmarked] using ih

theorem remaining_spent_append {front : List Token} (spent : Spent front) (texts : List String) :
    remaining ⟨front ++ unmarked texts⟩ = texts := by
  rw [remaining_append, remaining_spent spent, remaining_unmarked, List.nil_append]

section

variable {flag : String}

theorem not_announces_of_consumed {token : Token} (consumed : token.consumed = true) :
    Announces flag token = false := by
  simp [Announces, consumed]

theorem announces_iff {token : Token} :
    Announces flag token = true ↔ token.consumed = false ∧ token.text = announce flag := by
  simp [Announces]

theorem takeFirst?_append {front : List Token} (spent : Spent front) (rest : List Token) :
    takeFirst? flag (front ++ rest) = (takeFirst? flag rest).map (front ++ ·) := by
  induction front with
  | nil => simp
  | cons token front ih =>
    have passed : Announces flag token = false :=
      not_announces_of_consumed (spent token (by simp))
    have inner := ih fun other member => spent other (by simp [member])
    simp [takeFirst?, passed, inner, Function.comp_def]

/-- The same find with more tokens in front. -/
def Taken.behind (front : List Token) (taken : Taken) : Taken := front.foldr Taken.after taken

theorem Taken.behind_value (front : List Token) (text : String) (tokens : List Token) :
    (Taken.value text tokens).behind front = .value text (front ++ tokens) := by
  induction front with
  | nil => rfl
  | cons token front ih => simpa [behind, Taken.after] using congrArg (Taken.after token) ih

theorem Taken.of_behind_value {front : List Token} {taken : Taken} {text : String}
    {tokens : List Token} (same : taken.behind front = .value text tokens) :
    ∃ after, taken = .value text after := by
  induction front generalizing tokens with
  | nil => exact ⟨tokens, same⟩
  | cons token front ih =>
    change (taken.behind front).after token = .value text tokens at same
    cases inner : taken.behind front with
    | value found after =>
      rw [inner] at same
      cases same
      exact ih inner
    | absent => simp [inner, after] at same
    | valueless => simp [inner, after] at same

theorem Taken.behind_absent (front : List Token) : Taken.absent.behind front = .absent := by
  induction front with
  | nil => rfl
  | cons token front ih => exact congrArg (Taken.after token) ih

theorem Taken.behind_valueless (front : List Token) :
    Taken.valueless.behind front = .valueless := by
  induction front with
  | nil => rfl
  | cons token front ih => exact congrArg (Taken.after token) ih

theorem takePair_cons {token : Token} (passed : Announces flag token = false)
    (rest : List Token) : takePair flag (token :: rest) = (takePair flag rest).after token := by
  rw [takePair.eq_def]
  simp [passed]

-- A token that announces nothing does not change what is found behind it.
theorem exists_of_takePair_cons {token : Token} (passed : Announces flag token = false)
    {rest after : List Token} {text : String}
    (taken : takePair flag (token :: rest) = .value text after) :
    ∃ after, takePair flag rest = .value text after := by
  rw [takePair_cons passed] at taken
  have same : (takePair flag rest).behind [token] = .value text after := taken
  exact Taken.of_behind_value same

/-- None of the tokens announces the option. -/
def Passed (flag : String) (tokens : List Token) : Prop :=
  ∀ token ∈ tokens, Announces flag token = false

theorem Spent.passed {tokens : List Token} (spent : Spent tokens) : Passed flag tokens :=
  fun token member => not_announces_of_consumed (spent token member)

theorem passed_unmarked {texts : List String} (absent : announce flag ∉ texts) :
    Passed flag (unmarked texts) := by
  intro token member
  obtain ⟨text, inside, rfl⟩ := List.mem_map.mp member
  cases announced : Announces flag { text } with
  | true => exact absurd ((announces_iff.mp announced).2 ▸ inside) absent
  | false => rfl

namespace Passed

variable {front : List Token} (passed : Passed flag front)

include passed

theorem append {token : Token} (silent : Announces flag token = false) :
    Passed flag (front ++ [token]) := by
  intro other member
  rcases List.mem_append.mp member with inside | last
  · exact passed other inside
  · exact List.mem_singleton.mp last ▸ silent

-- Whatever announces nothing in front is passed over, taken or not.
theorem takePair (rest : List Token) :
    TokenSequence.takePair flag (front ++ rest) =
      (TokenSequence.takePair flag rest).behind front := by
  induction front with
  | nil => rfl
  | cons token front ih =>
    obtain ⟨here, passed⟩ := List.forall_mem_cons.mp passed
    rw [List.cons_append, takePair_cons here, ih passed]
    rfl

end Passed

-- Where the own announcement is next, the spent part grows by what is taken.
theorem takeFirst?_own (flag : String) {front : List Token} (spent : Spent front)
    (rest : List String) :
    ∃ grown, Spent grown ∧
      takeFirst? flag (front ++ unmarked (announce flag :: rest)) =
        some (grown ++ unmarked rest) := by
  refine ⟨front ++ [⟨announce flag, true⟩], spent.append (by simp [Spent]), ?_⟩
  rw [takeFirst?_append spent]
  simp [unmarked, takeFirst?, Announces]

theorem takePair_own (flag : String) {front : List Token} (spent : Spent front) (text : String)
    (rest : List String) :
    ∃ grown, Spent grown ∧ takePair flag (front ++ unmarked (announce flag :: text :: rest)) =
      .value text (grown ++ unmarked rest) := by
  refine ⟨front ++ [⟨announce flag, true⟩, ⟨text, true⟩], spent.append (by simp [Spent]), ?_⟩
  rw [spent.passed.takePair]
  simp [unmarked, takePair, Announces, Taken.behind_value]

theorem takeFirst?_eq_none_iff {tokens : List Token} :
    takeFirst? flag tokens = none ↔ announce flag ∉ remaining ⟨tokens⟩ := by
  induction tokens with
  | nil => simp [takeFirst?, remaining]
  | cons token rest ih =>
    rw [remaining_cons, takeFirst?]
    cases found : Announces flag token with
    | true =>
      obtain ⟨free, text⟩ := announces_iff.mp found
      simp [free, text]
    | false =>
      have other : announce flag ∉ if token.consumed then [] else [token.text] := by
        intro member
        cases mark : token.consumed with
        | true => simp [mark] at member
        | false =>
          have same : announce flag = token.text := by simpa [mark] using member
          exact absurd (announces_iff.mpr ⟨mark, same.symm⟩) (by simp [found])
      simp [ih, other]

theorem takePair_eq_absent_iff {tokens : List Token} :
    takePair flag tokens = .absent ↔ announce flag ∉ remaining ⟨tokens⟩ := by
  rw [← takeFirst?_eq_none_iff]
  induction tokens with
  | nil => simp [takeFirst?, takePair]
  | cons token rest ih =>
    unfold takePair takeFirst?
    -- Both stop at the same announcement, whatever follows it, and both pass everything else.
    split
    · split
      · simp
      · split <;> simp
    · cases taken : takePair flag rest <;> simpa [taken, Taken.after] using ih

-- One announcement goes, and the tokens on both sides of it stay.
theorem remaining_takeFirst? {tokens after : List Token}
    (taken : takeFirst? flag tokens = some after) :
    ∃ before behind, remaining ⟨tokens⟩ = before ++ announce flag :: behind ∧
      remaining ⟨after⟩ = before ++ behind := by
  induction tokens generalizing after with
  | nil => simp [takeFirst?] at taken
  | cons token rest ih =>
    unfold takeFirst? at taken
    split at taken
    · rename_i found
      obtain ⟨free, text⟩ := announces_iff.mp found
      cases taken
      exact ⟨[], remaining ⟨rest⟩, by simp [remaining_cons, free, text],
        by simp [remaining_cons]⟩
    · obtain ⟨marked, inner, rfl⟩ := Option.map_eq_some_iff.mp taken
      obtain ⟨before, behind, first, second⟩ := ih inner
      exact ⟨(if token.consumed then [] else [token.text]) ++ before, behind,
        by rw [remaining_cons, first, List.append_assoc],
        by rw [remaining_cons, second, List.append_assoc]⟩

theorem remaining_takePair {tokens after : List Token} {text : String}
    (taken : takePair flag tokens = .value text after) :
    ∃ before behind, remaining ⟨tokens⟩ = before ++ announce flag :: text :: behind ∧
      remaining ⟨after⟩ = before ++ behind := by
  induction tokens generalizing after with
  | nil => simp [takePair] at taken
  | cons token rest ih =>
    unfold takePair at taken
    split at taken
    · rename_i found
      obtain ⟨free, same⟩ := announces_iff.mp found
      split at taken
      · cases taken
      · rename_i next rest
        split at taken
        · cases taken
        · rename_i unread
          cases taken
          exact ⟨[], remaining ⟨rest⟩, by simp [remaining_cons, free, same, unread],
            by simp [remaining_cons]⟩
    · cases inner : takePair flag rest with
      | absent => simp [inner, Taken.after] at taken
      | valueless => simp [inner, Taken.after] at taken
      | value found marked =>
        simp only [inner, Taken.after, Taken.value.injEq] at taken
        obtain ⟨rfl, rfl⟩ := taken
        obtain ⟨before, behind, first, second⟩ := ih inner
        exact ⟨(if token.consumed then [] else [token.text]) ++ before, behind,
          by rw [remaining_cons, first, List.append_assoc],
          by rw [remaining_cons, second, List.append_assoc]⟩

end

end OptionProtocol.TokenSequence
