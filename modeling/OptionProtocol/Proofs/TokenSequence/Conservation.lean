import OptionProtocol.Proofs.TokenSequence.Calls

/-! Tokens are conserved. Whatever is called on a token sequence, its tokens stay the same, and
each one is owned by the single take that took it or is still left. -/

set_option autoImplicit false

namespace OptionProtocol.TokenSequence

/-- The takes behind the answer whether a bare announcement was there. -/
inductive FlagTaken (flag : String) : Bool → List Take → Prop where
  | unset : FlagTaken flag false []
  | set (place : Nat) : FlagTaken flag true [.flag flag place]

/-- The takes behind what was found for an option with a value; a fault has none. -/
inductive ValueTaken (flag : String) :
    Except OptionFault (Option String) → List Take → Prop where
  | absent : ValueTaken flag (.ok none) []
  | valueless : ValueTaken flag (.error (noValue flag)) []
  | value (place : Nat) (text : String) :
      ValueTaken flag (.ok (some text)) [.value flag place text]

/-- The takes behind the items of an option that may occur often: one for each of them, and one
more where the text of the last is no value. -/
inductive ItemsTaken (decodeItem : String → Attempt Value) (flag : String) :
    Except OptionFault (List Value) → List Take → Prop where
  | done : ItemsTaken decodeItem flag (.ok []) []
  | valueless : ItemsTaken decodeItem flag (.error (noValue flag)) []
  | unread (place : Nat) {text : String} {fault : OptionFault}
      (item : (decodeItem text).result = .error fault) :
      ItemsTaken decodeItem flag (.error fault) [.value flag place text]
  | item (place : Nat) {text : String} {value : Value} {found : Except OptionFault (List Value)}
      {takes : List Take} (item : (decodeItem text).result = .ok value)
      (rest : ItemsTaken decodeItem flag found takes) :
      ItemsTaken decodeItem flag (found.map (value :: ·)) (.value flag place text :: takes)

/-- What was found, read as a value of a kind. -/
def valueOf (reader : ObjectReader) (flag : String) (default : Value) (kind : Kind)
    (base : Option ClassId) : Except OptionFault (Option String) → Attempt Value
  | .ok none => .done default
  | .ok (some text) => decode reader text kind (some flag) base
  | .error fault => .fail fault

/-- The items found as one value; without items it is a copy of the default. -/
def listOf (default : Value) : Except OptionFault (List Value) → Except OptionFault Value
  | .ok [] => copyDefault default
  | .ok items => .ok (.list items)
  | .error fault => .error fault

theorem parseArray_eq_listOf (reader : ObjectReader) (s : TokenSequence) (flag : String)
    (default : Value) {kind : Kind} (valued : kind ≠ .flag) (base : Option ClassId) :
    s.parseArray reader flag default kind base =
      let found := collect (fun raw => decode reader raw kind (some flag) base) flag s.tokens
      ({ found.1 with result := listOf default found.1.result }, ⟨found.2⟩) := by
  rw [parseArray, if_neg valued]
  generalize collect _ flag s.tokens = found
  obtain ⟨⟨_ | ⟨_ | _⟩, _⟩, _⟩ := found <;> rfl

/-- How the reply to a call accounts for the takes that the call made. -/
inductive Call.Reports (reader : ObjectReader) : Call → Reply → List Take → Prop where
  | find (flag : String) (found : Option Nat) : Reports reader (.find flag) (.place found) []
  | takeFlag {flag : String} {found : Bool} {takes : List Take}
      (taken : FlagTaken flag found takes) : Reports reader (.takeFlag flag) (.present found) takes
  | parseFlag {flag : String} {found : Bool} {takes : List Take}
      (taken : FlagTaken flag found takes) : Reports reader (.parseFlag flag) (.present found) takes
  | takeValue {flag : String} {found : Except OptionFault (Option String)} {takes : List Take}
      (taken : ValueTaken flag found takes) : Reports reader (.takeValue flag) (.text found) takes
  | parseBare {flag : String} (default : Value) (base : Option ClassId) {found : Bool}
      {takes : List Take} (taken : FlagTaken flag found takes) :
      Reports reader (.parse flag default .flag base) (.value (.done (.bool found))) takes
  | parse {flag : String} (default : Value) {kind : Kind} (base : Option ClassId)
      (valued : kind ≠ .flag) {found : Except OptionFault (Option String)} {takes : List Take}
      (taken : ValueTaken flag found takes) :
      Reports reader (.parse flag default kind base)
        (.value (valueOf reader flag default kind base found)) takes
  | parseBareArray (flag : String) (default : Value) (base : Option ClassId) :
      Reports reader (.parseArray flag default .flag base) (.value (.fail .flagArray)) []
  | parseArray {flag : String} (default : Value) {kind : Kind} (base : Option ClassId)
      (valued : kind ≠ .flag) {found : Except OptionFault (List Value)} {takes : List Take}
      (taken : ItemsTaken (fun text => decode reader text kind (some flag) base) flag found takes)
      {attempt : Attempt Value} (result : attempt.result = listOf default found) :
      Reports reader (.parseArray flag default kind base) (.value attempt) takes

section

variable {reader : ObjectReader} {flag : String} {takes : List Take}

theorem FlagTaken.asked {found : Bool} (taken : FlagTaken flag found takes) :
    ∀ take ∈ takes, take.asked = flag := by
  cases taken <;> simp [Take.asked]

theorem ValueTaken.asked {found : Except OptionFault (Option String)}
    (taken : ValueTaken flag found takes) : ∀ take ∈ takes, take.asked = flag := by
  cases taken <;> simp [Take.asked]

theorem ItemsTaken.asked {decodeItem : String → Attempt Value}
    {found : Except OptionFault (List Value)} (taken : ItemsTaken decodeItem flag found takes) :
    ∀ take ∈ takes, take.asked = flag := by
  induction taken with
  | done => simp
  | valueless => simp
  | unread => simp [Take.asked]
  | item _ _ _ ih => exact List.forall_mem_cons.mpr ⟨rfl, ih⟩

theorem Call.Reports.asked {call : Call} {reply : Reply}
    (reports : call.Reports reader reply takes) : ∀ take ∈ takes, take.asked = call.flag := by
  cases reports with
  | find => simp
  | takeFlag taken => exact taken.asked
  | parseFlag taken => exact taken.asked
  | takeValue taken => exact taken.asked
  | parseBare _ _ taken => exact taken.asked
  | parse _ _ _ taken => exact taken.asked
  | parseBareArray => simp
  | parseArray _ _ _ taken => exact taken.asked

theorem takeFlag_trail (flag : String) (s : TokenSequence) :
    ∃ takes, Trail s.tokens takes (s.takeFlag flag).2.tokens ∧
      FlagTaken flag (s.takeFlag flag).1 takes := by
  unfold takeFlag
  cases taken : takeFirst? flag s.tokens with
  | none => exact ⟨[], .done _, .unset⟩
  | some after =>
    obtain ⟨place, took⟩ := exists_took_flag taken
    exact ⟨[_], .step took (.done _), .set place⟩

theorem collect_trail (decodeItem : String → Attempt Value) (flag : String)
    (tokens : List Token) :
    ∃ takes, Trail tokens takes (collect decodeItem flag tokens).2 ∧
      ItemsTaken decodeItem flag (collect decodeItem flag tokens).1.result takes := by
  cases taken : takePair flag tokens with
  | absent =>
    rw [collect_absent (takePair_eq_absent_iff.mp taken)]
    exact ⟨[], .done _, .done⟩
  | valueless =>
    rw [collect_valueless taken]
    exact ⟨[], .done _, .valueless⟩
  | value text after =>
    obtain ⟨place, took⟩ := exists_took_value taken
    cases item : (decodeItem text).result with
    | error fault =>
      rw [collect_value taken, item]
      exact ⟨[_], .step took (.done _), .unread place item⟩
    | ok value =>
      obtain ⟨takes, trail, items⟩ := collect_trail decodeItem flag after
      rw [(collect_item taken item).1, (collect_item taken item).2]
      exact ⟨_, .step took trail, .item place item items⟩
termination_by freeCount tokens
decreasing_by have := freeCount_takePair taken; omega

/-- A call makes a row of takes, and reports them. -/
theorem Call.run_trail (reader : ObjectReader) (call : Call) (s : TokenSequence) :
    ∃ takes, Trail s.tokens takes (call.run reader s).2.tokens ∧
      call.Reports reader (call.run reader s).1 takes := by
  cases call with
  | find flag => exact ⟨[], .done _, .find flag _⟩
  | takeFlag flag =>
    obtain ⟨takes, trail, taken⟩ := takeFlag_trail flag s
    exact ⟨takes, trail, .takeFlag taken⟩
  | parseFlag flag =>
    obtain ⟨takes, trail, taken⟩ := takeFlag_trail flag s
    exact ⟨takes, trail, .parseFlag taken⟩
  | takeValue flag =>
    simp only [Call.run]
    cases taken : s.takeValue flag with
    | absent => exact ⟨[], .done _, .takeValue .absent⟩
    | valueless => exact ⟨[], .done _, .takeValue .valueless⟩
    | value text after =>
      obtain ⟨place, took⟩ := exists_took_value taken
      exact ⟨[_], .step took (.done _), .takeValue (.value place text)⟩
  | parse flag default kind base =>
    by_cases bare : kind = .flag
    · subst bare
      obtain ⟨takes, trail, taken⟩ := takeFlag_trail flag s
      simp only [Call.run, TokenSequence.parse, if_true]
      exact ⟨takes, trail, .parseBare default base taken⟩
    · simp only [Call.run, TokenSequence.parse, bare, if_false]
      cases taken : s.takeValue flag with
      | absent => exact ⟨[], .done _, .parse default base bare .absent⟩
      | valueless => exact ⟨[], .done _, .parse default base bare .valueless⟩
      | value text after =>
        obtain ⟨place, took⟩ := exists_took_value taken
        exact ⟨[_], .step took (.done _), .parse default base bare (.value place text)⟩
  | parseArray flag default kind base =>
    by_cases bare : kind = .flag
    · subst bare
      exact ⟨[], .done _, .parseBareArray flag default base⟩
    · obtain ⟨takes, trail, taken⟩ :=
        collect_trail (fun text => decode reader text kind (some flag) base) flag s.tokens
      simp only [Call.run, parseArray_eq_listOf reader s flag default bare base]
      exact ⟨takes, trail, .parseArray default base bare taken rfl⟩

end

/-- The takes account for the state of a sequence with the given texts: every place that is marked
belongs to exactly one of them, and what belongs to none is left. -/
structure Accounts (texts : List String) (takes : List Take) (s : TokenSequence) : Prop where
  unchanged : s.texts = texts
  holds : ∀ take ∈ takes, take.Holds texts
  once : (takes.flatMap Take.places).Nodup
  marked : ∀ place, s.marks[place]? = some true ↔ place ∈ takes.flatMap Take.places
  left : s.remaining =
    (texts.zipIdx.filter fun slot => slot.2 ∉ takes.flatMap Take.places).map Prod.fst

theorem markAll_eq_mapIdx (tokens : List Token) (places : List Nat) :
    markAll tokens places =
      tokens.mapIdx fun place token => if place ∈ places then token.taken else token := by
  apply List.ext_getElem?
  intro i
  rw [getElem?_markAll, List.getElem?_mapIdx]
  split <;> simp

theorem remaining_markAll (texts : List String) (places : List Nat) :
    remaining ⟨markAll (unmarked texts) places⟩ =
      (texts.zipIdx.filter fun slot => slot.2 ∉ places).map Prod.fst := by
  rw [markAll_eq_mapIdx, List.mapIdx_eq_zipIdx_map, unmarked, List.zipIdx_map, remaining]
  simp only [List.map_map, List.filter_map]
  congr 1
  · funext slot
    by_cases owned : slot.2 ∈ places <;> simp [owned]
  · congr 1
    funext slot
    by_cases owned : slot.2 ∈ places <;> simp [owned]

theorem Trail.accounts {texts : List String} {takes : List Take} {s : TokenSequence}
    (trail : Trail (unmarked texts) takes s.tokens) : Accounts texts takes s where
  unchanged := by
    rw [TokenSequence.texts, trail.eq_markAll, texts_markAll]
    simp [unmarked, Function.comp_def]
  holds take member := by simpa [unmarked, Function.comp_def] using trail.holds member
  once := trail.nodup
  marked place := by
    rw [marks, trail.eq_markAll, List.getElem?_map, getElem?_markAll]
    by_cases owned : place ∈ takes.flatMap Take.places
    · obtain ⟨text, left⟩ := trail.free owned
      simp [owned, left]
    · simp [owned, unmarked]
  left := by
    rw [← remaining_markAll, ← trail.eq_markAll]

-- Takes only ever add marks.
theorem Trail.marks_mono {s after : TokenSequence} {takes : List Take}
    (trail : Trail s.tokens takes after.tokens) {place : Nat}
    (marked : s.marks[place]? = some true) : after.marks[place]? = some true := by
  rw [marks, List.getElem?_map] at marked ⊢
  obtain ⟨token, here, consumed⟩ := Option.map_eq_some_iff.mp marked
  rw [trail.eq_markAll, getElem?_markAll]
  by_cases owned : place ∈ takes.flatMap Take.places <;> simp [owned, here, consumed]

theorem Call.takeValue_fault {reader : ObjectReader} {flag : String} {s : TokenSequence}
    {fault : OptionFault}
    (raised : ((Call.takeValue flag).run reader s).1 = .text (.error fault)) :
    ((Call.takeValue flag).run reader s).2 = s := by
  simp only [Call.run] at raised ⊢
  cases taken : s.takeValue flag with
  | absent => rfl
  | valueless => rfl
  | value text after => simp [taken] at raised

theorem runAll_trail (reader : ObjectReader) (calls : List Call) (s : TokenSequence) :
    ∃ journal : List (List Take),
      Trail s.tokens journal.flatten (runAll reader calls s).2.tokens ∧
      List.Forall₂ (fun answer takes => answer.1.Reports reader answer.2 takes)
        (runAll reader calls s).1 journal := by
  induction calls generalizing s with
  | nil => exact ⟨[], .done _, .nil⟩
  | cons call calls ih =>
    obtain ⟨takes, trail, reports⟩ := call.run_trail reader s
    obtain ⟨journal, rest, answers⟩ := ih (call.run reader s).2
    exact ⟨takes :: journal, trail.append rest, .cons reports answers⟩

theorem map_fst_runAll (reader : ObjectReader) (calls : List Call) (s : TokenSequence) :
    (runAll reader calls s).1.map Prod.fst = calls := by
  induction calls generalizing s with
  | nil => rfl
  | cons call calls ih => exact congrArg (call :: ·) (ih _)

/-- After any calls, each with a reply that reports its takes, every marked place is owned by
exactly one take, and the tokens that are left are those that no take owns. More calls clear no
mark, and a value that is asked for in vain marks nothing. -/
theorem runAll_accounts (reader : ObjectReader) (texts : List String) (calls : List Call) :
    ∃ journal : List (List Take),
      (runAll reader calls (ofTexts texts)).1.map Prod.fst = calls ∧
      List.Forall₂ (fun answer takes => answer.1.Reports reader answer.2 takes)
        (runAll reader calls (ofTexts texts)).1 journal ∧
      Accounts texts journal.flatten (runAll reader calls (ofTexts texts)).2 ∧
      (∀ (more : List Call) (place : Nat),
        (runAll reader calls (ofTexts texts)).2.marks[place]? = some true →
        (runAll reader (calls ++ more) (ofTexts texts)).2.marks[place]? = some true) ∧
      ∀ flag fault,
        ((Call.takeValue flag).run reader (runAll reader calls (ofTexts texts)).2).1 =
          .text (.error fault) →
        ((Call.takeValue flag).run reader (runAll reader calls (ofTexts texts)).2).2 =
          (runAll reader calls (ofTexts texts)).2 := by
  obtain ⟨journal, trail, reports⟩ := runAll_trail reader calls (ofTexts texts)
  refine ⟨journal, map_fst_runAll reader calls _, reports, trail.accounts, ?_, ?_⟩
  · intro more place marked
    obtain ⟨_, rest, _⟩ := runAll_trail reader more (runAll reader calls (ofTexts texts)).2
    rw [runAll_append]
    exact rest.marks_mono marked
  · intro flag fault raised
    exact Call.takeValue_fault raised

end OptionProtocol.TokenSequence
