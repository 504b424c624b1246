import OptionProtocol.Proofs.Expression.Lexemes

/-! Texts in round brackets. A text that can be taken apart into lexemes can be taken apart in
brackets as well, into the same lexemes but for line ends, unless it ends in a comment, which then
takes the closing bracket with it, or nests its own brackets as deep as brackets may be nested. -/

set_option autoImplicit false

namespace OptionProtocol.Expression

/-- Reading the text inside the given brackets ends with a comment that no line end closes. -/
inductive EndsInComment : List Char → List Char → Prop where
  | here {brackets rest : List Char} (single : '\n' ∉ rest) : EndsInComment brackets ('#' :: rest)
  | behind {brackets s inner rest : List Char} {lexeme : Option Lexeme}
      (step : lexStep brackets s = some (lexeme, inner, rest)) (last : EndsInComment inner rest) :
      EndsInComment brackets s

/-- How many brackets are open behind a lexeme. -/
def Lexeme.depthAfter (depth : Nat) : Lexeme → Nat
  | .operator "(" | .operator "[" | .operator "\x7b" => depth + 1
  | .operator ")" | .operator "]" | .operator "\x7d" => depth - 1
  | _ => depth

/-- How many brackets are open at most, of which `depth` are before the lexemes. -/
def deepest (depth : Nat) : List Lexeme → Nat
  | [] => depth
  | lexeme :: rest => max depth (deepest (lexeme.depthAfter depth) rest)

variable {s rest brackets inner : List Char} {lexeme : Lexeme} {read? : Option Lexeme}
  {lexemes : List Lexeme} {symbol : String} {fuel : Nat}

/-- Operators that are no brackets leave the depth as it is. -/
theorem depthAfter_operator
    (other : ∀ c, symbol.toList = [c] → c ∉ ['(', '[', '\x7b', ')', ']', '\x7d']) (depth : Nat) :
    (Lexeme.operator symbol).depthAfter depth = depth := by
  rw [Lexeme.depthAfter]
  all_goals
    rintro ⟨⟩
    exact other _ rfl (by decide)

theorem bracketsAfter_depth (known : bracketsAfter brackets symbol = some inner) :
    inner.length = (Lexeme.operator symbol).depthAfter brackets.length := by
  unfold bracketsAfter at known
  split at known
  · rename_i c single
    split at known
    · rename_i opens
      obtain ⟨-, known⟩ := Option.ite_none_right_eq_some.mp known
      obtain rfl : symbol = String.ofList [c] := by rw [← single, String.ofList_toList]
      cases known
      obtain rfl | rfl | rfl := opens <;> rfl
    · rename_i opens
      split at known
      · rename_i closing
        cases brackets with
        | nil => cases known
        | cons opening outer =>
          obtain ⟨-, known⟩ := Option.ite_none_right_eq_some.mp known
          obtain rfl : symbol = String.ofList [c] := by rw [← single, String.ofList_toList]
          cases known
          obtain rfl | rfl | rfl := closing <;> rfl
      · rename_i other
        cases known
        refine (depthAfter_operator (fun d same => ?_) _).symm
        cases single.symm.trans same
        simp only [not_or] at opens other
        simp [opens, other]
  · rename_i several
    cases known
    exact (depthAfter_operator (fun c single => absurd single (several c)) _).symm

theorem bracketsAfter_close (known : bracketsAfter brackets symbol = some inner)
    (room : brackets.length < greatestDepth) :
    bracketsAfter (brackets ++ ['(']) symbol =
      if inner.length < greatestDepth then some (inner ++ ['(']) else none := by
  unfold bracketsAfter at known ⊢
  split at known
  · by_cases opens : ‹Char› = '(' ∨ ‹Char› = '[' ∨ ‹Char› = '\x7b'
    · rw [if_pos opens, if_pos room] at known
      cases known
      rw [if_pos opens, List.length_append]
      rfl
    · rw [if_neg opens] at known ⊢
      split at known
      · rename_i closing
        rw [if_pos closing]
        cases brackets with
        | nil => cases known
        | cons opening outer =>
          simp only [Option.ite_none_right_eq_some, Option.some.injEq] at known
          obtain ⟨fits, rfl⟩ := known
          have few : outer.length < greatestDepth := Nat.lt_of_succ_lt room
          simp [fits, few]
      · rename_i other
        cases known
        rw [if_neg other, if_pos room]
  · cases known
    rw [if_pos room]

/-- What a step through a text can do. -/
inductive Steps (brackets : List Char) :
    List Char → Option Lexeme → List Char → List Char → Prop where
  | blank {c : Char} {rest : List Char} (skipped : c = ' ' ∨ c = '\t' ∨ c = '\x0c') :
      Steps brackets (c :: rest) none brackets rest
  | comment {rest : List Char} :
      Steps brackets ('#' :: rest) none brackets (rest.dropWhile (· ≠ '\n'))
  | lineEnd {rest : List Char} :
      Steps brackets ('\n' :: rest) (if brackets.isEmpty then some .newline else none) brackets rest
  | joined {c : Char} {rest : List Char} :
      Steps brackets ('\\' :: '\n' :: c :: rest) none brackets (c :: rest)
  | lexeme {c : Char} {s rest inner : List Char} {lexeme : Lexeme}
      (plain : c ∉ [' ', '\t', '\x0c', '#', '\n', '\\'])
      (reads : readLexeme (c :: s) = some (lexeme, rest))
      (known : lexeme.bracketsAfter brackets = some inner) :
      Steps brackets (c :: s) (some lexeme) inner rest

theorem lexStep_plain {c : Char} (plain : c ∉ [' ', '\t', '\x0c', '#', '\n', '\\'])
    (brackets s : List Char) :
    lexStep brackets (c :: s) = (readLexeme (c :: s)).bind fun (lexeme, rest) =>
      (lexeme.bracketsAfter brackets).map fun inner => (some lexeme, inner, rest) := by
  simp only [List.mem_cons, List.not_mem_nil, or_false, not_or] at plain
  simp only [lexStep, plain, or_self, if_false, Option.map_eq_bind]
  rfl

theorem lexStep_backslash (brackets s : List Char) :
    lexStep brackets ('\\' :: s) =
      match s with
      | '\n' :: next :: rest => some (none, brackets, next :: rest)
      | _ => none :=
  rfl

theorem steps_of_lexStep (step : lexStep brackets s = some (read?, inner, rest)) :
    Steps brackets s read? inner rest := by
  cases s with
  | nil => cases step
  | cons c more =>
    by_cases special : c ∈ [' ', '\t', '\x0c', '#', '\n', '\\']
    · simp only [List.mem_cons, List.not_mem_nil, or_false] at special
      obtain rfl | rfl | rfl | rfl | rfl | rfl := special
      · cases step
        exact .blank (.inl rfl)
      · cases step
        exact .blank (.inr (.inl rfl))
      · cases step
        exact .blank (.inr (.inr rfl))
      · cases step
        exact .comment
      · cases step
        exact .lineEnd
      · rw [lexStep_backslash] at step
        split at step
        · cases step
          exact .joined
        · cases step
    · rw [lexStep_plain special] at step
      obtain ⟨⟨lexeme, after⟩, reads, step⟩ := Option.bind_eq_some_iff.mp step
      obtain ⟨inner, known, same⟩ := Option.map_eq_some_iff.mp step
      cases same
      exact .lexeme special reads known

theorem le_deepest (depth : Nat) (lexemes : List Lexeme) : depth ≤ deepest depth lexemes := by
  cases lexemes with
  | nil => exact Nat.le_refl depth
  | cons lexeme rest => exact Nat.le_max_left ..

theorem Lexeme.bracketsAfter_length (known : lexeme.bracketsAfter brackets = some inner) :
    inner.length = lexeme.depthAfter brackets.length := by
  cases lexeme with
  | operator symbol => exact bracketsAfter_depth known
  | _ => cases known; rfl

theorem Lexeme.bracketsAfter_close (known : lexeme.bracketsAfter brackets = some inner)
    (room : brackets.length < greatestDepth) :
    lexeme.bracketsAfter (brackets ++ ['(']) =
      if inner.length < greatestDepth then some (inner ++ ['(']) else none := by
  cases lexeme with
  | operator symbol => exact Expression.bracketsAfter_close known room
  | _ => cases known; exact (if_pos room).symm

namespace Steps

theorem suffix (step : Steps brackets s read? inner rest) :
    rest <:+ s ∧ rest.length < s.length := by
  have behind {c : Char} {s rest : List Char} (suffix : rest <:+ s) :
      rest <:+ c :: s ∧ rest.length < (c :: s).length :=
    ⟨suffix.trans (List.suffix_cons c s), Nat.lt_succ_of_le suffix.length_le⟩
  cases step with
  | blank | lineEnd => exact behind List.suffix_rfl
  | comment => exact behind (List.dropWhile_suffix _)
  | joined => exact behind (List.suffix_cons _ _)
  | lexeme plain reads known => exact behind (readLexeme_suffix reads)

theorem deepest_eq (step : Steps brackets s read? inner rest) (lexemes : List Lexeme) :
    deepest brackets.length (read?.toList ++ lexemes) =
      max brackets.length (deepest inner.length lexemes) := by
  have same := (Nat.max_eq_right (le_deepest brackets.length lexemes)).symm
  cases step with
  | blank | comment | joined => exact same
  | lineEnd =>
    split
    · rfl
    · exact same
  | lexeme plain reads known =>
    rw [Lexeme.bracketsAfter_length known]
    rfl

/-- A step inside brackets, with one more around them and its end behind the text. -/
theorem close (step : Steps brackets s read? inner rest)
    (ends : ∀ more, s = '#' :: more → '\n' ∈ more) (room : brackets.length < greatestDepth) :
    lexStep (brackets ++ ['(']) (s ++ [')']) =
      if inner.length < greatestDepth then
        some (read?.filter (· ≠ .newline), inner ++ ['('], rest ++ [')'])
      else none := by
  cases step with
  | blank skipped => obtain rfl | rfl | rfl := skipped <;> exact (if_pos room).symm
  | comment =>
    rename_i more
    rw [if_pos room]
    have stops : (more ++ [')']).dropWhile (· ≠ '\n') = more.dropWhile (· ≠ '\n') ++ [')'] := by
      have met : ¬(more.dropWhile (· ≠ '\n')).isEmpty := by
        simpa [List.dropWhile_eq_nil_iff] using ends more rfl
      rw [List.dropWhile_append, if_neg met]
    rw [← stops]
    rfl
  | lineEnd =>
    rw [if_pos room]
    cases brackets <;> rfl
  | joined => exact (if_pos room).symm
  | lexeme plain reads known =>
    rw [List.cons_append, lexStep_plain plain, ← List.cons_append, readLexeme_close reads,
      Option.bind_some]
    dsimp only
    rw [Lexeme.bracketsAfter_close known room]
    split
    · have kept : (some ‹Lexeme›).filter (· ≠ .newline) = some ‹Lexeme› :=
        Option.filter_some_pos (decide_eq_true (readLexeme_ne_newline reads))
      rw [kept]
      rfl
    · rfl

end Steps

theorem lexFrom_succ (fuel : Nat) (step : lexStep brackets s = some (read?, inner, rest)) :
    lexFrom (fuel + 1) brackets s = (lexFrom fuel inner rest).map (read?.toList ++ ·) := by
  cases s with
  | nil => cases step
  | cons c s =>
    rw [lexFrom, step, Option.map_eq_bind]
    · rfl
    · simp

theorem lexFrom_none (fuel : Nat) (filled : s ≠ []) (stuck : lexStep brackets s = none) :
    lexFrom fuel brackets s = none := by
  cases fuel <;> cases s <;> simp_all [lexFrom]

theorem exists_lexStep {fuel : Nat} (filled : s ≠ [])
    (reads : lexFrom fuel brackets s = some lexemes) :
    ∃ less read? inner rest more, fuel = less + 1 ∧
      lexStep brackets s = some (read?, inner, rest) ∧
      lexFrom less inner rest = some more ∧ lexemes = read?.toList ++ more := by
  cases fuel with
  | zero => cases s <;> simp_all [lexFrom]
  | succ less =>
    cases step : lexStep brackets s with
    | none => simp [lexFrom_none _ filled step] at reads
    | some after =>
      obtain ⟨read?, inner, rest⟩ := after
      rw [lexFrom_succ less step] at reads
      obtain ⟨more, behind, rfl⟩ := Option.map_eq_some_iff.mp reads
      exact ⟨less, read?, inner, rest, more, rfl, rfl, behind, rfl⟩

theorem lexFrom_nil_close {fuel more : Nat} (reads : lexFrom fuel brackets [] = some lexemes)
    (enough : more ≠ 0) :
    lexFrom more (brackets ++ ['(']) ([] ++ [')']) =
      if deepest brackets.length lexemes < greatestDepth then
        some (lexemes.filter (· ≠ .newline) ++ [.operator ")"])
      else none := by
  obtain ⟨less, rfl⟩ := Nat.exists_eq_succ_of_ne_zero enough
  cases brackets with
  | nil =>
    have none_ : lexemes = [] := by cases fuel <;> simpa [lexFrom] using reads.symm
    subst none_
    have step : lexStep ['('] [')'] = some (some (.operator ")"), [], []) := by decide
    rw [if_pos (by decide), List.nil_append, List.nil_append, lexFrom_succ less step]
    cases less <;> rfl
  | cons opening outer => cases fuel <;> simp [lexFrom] at reads

/-- A text that does not end in a comment, with a bracket around it that is closed behind it. -/
theorem lexFrom_close {fuel more : Nat} (reads : lexFrom fuel brackets s = some lexemes)
    (open_ : ¬EndsInComment brackets s) (room : brackets.length < greatestDepth)
    (enough : fuel < more) :
    lexFrom more (brackets ++ ['(']) (s ++ [')']) =
      if deepest brackets.length lexemes < greatestDepth then
        some (lexemes.filter (· ≠ .newline) ++ [.operator ")"])
      else none := by
  induction fuel using Nat.strong_induction_on generalizing brackets s lexemes more with
  | _ fuel hyp =>
    by_cases empty : s = []
    · subst empty
      exact lexFrom_nil_close reads (Nat.ne_zero_of_lt enough)
    · obtain ⟨less, read?, inner, rest, behind, rfl, step, follow, rfl⟩ :=
        exists_lexStep empty reads
      have steps := steps_of_lexStep step
      have ends : ∀ more, s = '#' :: more → '\n' ∈ more := by
        rintro more rfl
        by_contra single
        exact open_ (.here single)
      have closed := steps.close ends room
      simp only [steps.deepest_eq, Nat.max_lt, room, true_and]
      by_cases deep : inner.length < greatestDepth
      · obtain ⟨spare, rfl⟩ : ∃ spare, more = spare + 1 := ⟨more - 1, by omega⟩
        rw [if_pos deep] at closed
        rw [lexFrom_succ spare closed,
          hyp less less.lt_succ_self follow (fun last => open_ (.behind step last)) deep
            (Nat.lt_of_succ_lt_succ enough)]
        split
        · rw [Option.map_some, Option.toList_filter, List.filter_append, List.append_assoc]
        · rfl
      · rw [if_neg deep] at closed
        rw [lexFrom_none more (by simp) closed, if_neg]
        exact fun small => deep (Nat.lt_of_le_of_lt (le_deepest _ _) small)

theorem EndsInComment.ne_nil (last : EndsInComment brackets s) : s ≠ [] := by
  cases last with
  | here single => exact List.cons_ne_nil _ _
  | behind step last =>
    rintro rfl
    cases step

theorem lexStep_comment {more : List Char} (single : '\n' ∉ more) (brackets : List Char) :
    lexStep brackets ('#' :: more) = some (none, brackets, []) := by
  have all : more.dropWhile (· ≠ '\n') = [] := by
    rw [List.dropWhile_eq_nil_iff]
    rintro c member
    exact decide_eq_true fun same => single (same ▸ member)
  rw [← all]
  rfl

/-- The comment takes the closing bracket with it. -/
theorem lexFrom_close_comment (last : EndsInComment brackets s)
    (room : brackets.length < greatestDepth) (more : Nat) :
    lexFrom more (brackets ++ ['(']) (s ++ [')']) = none := by
  induction last generalizing more with
  | here single =>
    cases more with
    | zero => rfl
    | succ more =>
      rw [List.cons_append, lexFrom_succ more (lexStep_comment (by simpa using single) _)]
      cases more <;> simp [lexFrom]
  | @behind brackets s inner rest lexeme step last hyp =>
    have ends : ∀ more, s = '#' :: more → '\n' ∈ more := by
      rintro more rfl
      by_contra single
      rw [lexStep_comment single] at step
      cases step
      exact last.ne_nil rfl
    have closed := (steps_of_lexStep step).close ends room
    split at closed
    · rename_i deep
      cases more with
      | zero => cases s <;> rfl
      | succ more => rw [lexFrom_succ more closed, hyp deep, Option.map_none]
    · exact lexFrom_none more (by simp) closed

/-- Looks for a comment that no line end closes, one step after the other. -/
def endsInComment : Nat → List Char → List Char → Bool
  | 0, _, _ => false
  | fuel + 1, brackets, s =>
      (s.head? = some '#' && !s.contains '\n') ||
        match lexStep brackets s with
        | some (_, inner, rest) => endsInComment fuel inner rest
        | none => false

theorem endsInComment_iff (enough : s.length ≤ fuel) :
    endsInComment fuel brackets s = true ↔ EndsInComment brackets s := by
  induction fuel generalizing brackets s with
  | zero =>
    obtain rfl := List.length_eq_zero_iff.mp (Nat.le_zero.mp enough)
    simp only [endsInComment, Bool.false_eq_true, false_iff]
    exact fun last => last.ne_nil rfl
  | succ fuel hyp =>
    have further {lexeme : Option Lexeme} {inner rest : List Char}
        (step : lexStep brackets s = some (lexeme, inner, rest)) :
        endsInComment fuel inner rest = true ↔ EndsInComment inner rest :=
      hyp (Nat.le_of_lt_succ (Nat.lt_of_lt_of_le (steps_of_lexStep step).suffix.2 enough))
    rw [endsInComment, Bool.or_eq_true]
    constructor
    · rintro (here | behind)
      · cases s with
        | nil => simp at here
        | cons c rest =>
          obtain ⟨rfl, -, single⟩ : c = '#' ∧ '\n' ≠ c ∧ '\n' ∉ rest := by simpa using here
          exact .here single
      · split at behind
        · rename_i step
          exact .behind step ((further step).mp behind)
        · cases behind
    · intro last
      cases last with
      | here single => exact .inl (by simpa using single)
      | behind step last =>
        rw [step]
        exact .inr ((further step).mpr last)

instance (brackets s : List Char) : Decidable (EndsInComment brackets s) :=
  decidable_of_iff _ (endsInComment_iff (le_refl s.length))

/-! Characters that leave no lexeme. -/

/-- Any fuel that a text can need will do. -/
theorem lexFrom_enough {fuel more : Nat} (enough : s.length ≤ fuel) (also : s.length ≤ more)
    (brackets : List Char) : lexFrom fuel brackets s = lexFrom more brackets s := by
  induction fuel using Nat.strong_induction_on generalizing brackets s more with
  | _ fuel hyp =>
    by_cases empty : s = []
    · subst empty
      simp [lexFrom]
    · cases step : lexStep brackets s with
      | none => rw [lexFrom_none fuel empty step, lexFrom_none more empty step]
      | some after =>
        obtain ⟨read?, inner, rest⟩ := after
        have shorter := (steps_of_lexStep step).suffix.2
        obtain ⟨less, rfl⟩ : ∃ less, fuel = less + 1 := ⟨fuel - 1, by omega⟩
        obtain ⟨spare, rfl⟩ : ∃ spare, more = spare + 1 := ⟨more - 1, by omega⟩
        rw [lexFrom_succ less step, lexFrom_succ spare step,
          hyp less less.lt_succ_self (Nat.le_of_lt_succ (Nat.lt_of_lt_of_le shorter enough))
            (Nat.le_of_lt_succ (Nat.lt_of_lt_of_le shorter also))]

theorem lexFrom_skip {fuel : Nat} (step : lexStep brackets s = some (none, inner, rest))
    (enough : s.length ≤ fuel) : lexFrom fuel brackets s = lexFrom fuel inner rest := by
  have shorter := (steps_of_lexStep step).suffix.2
  obtain ⟨less, rfl⟩ : ∃ less, fuel = less + 1 := ⟨fuel - 1, by omega⟩
  have same : lexFrom less inner rest = lexFrom (less + 1) inner rest :=
    lexFrom_enough (by omega) (by omega) inner
  rw [lexFrom_succ less step, same]
  simp

theorem lexFrom_lineEnd (inside : brackets ≠ []) (enough : s.length + 1 ≤ fuel) :
    lexFrom fuel brackets ('\n' :: s) = lexFrom fuel brackets s := by
  refine lexFrom_skip ?_ enough
  cases brackets with
  | nil => exact absurd rfl inside
  | cons opening outer => rfl

theorem lexFrom_comment_cons {c : Char} (single : c ≠ '\n') (enough : s.length + 2 ≤ fuel) :
    lexFrom fuel brackets ('#' :: c :: s) = lexFrom fuel brackets ('#' :: s) := by
  have skipped : (c :: s).dropWhile (· ≠ '\n') = s.dropWhile (· ≠ '\n') :=
    List.dropWhile_cons_of_pos (decide_eq_true single)
  have step : lexStep brackets ('#' :: c :: s) =
      some (none, brackets, s.dropWhile (· ≠ '\n')) := by
    rw [← skipped]
    rfl
  rw [lexFrom_skip step enough]
  exact (lexFrom_skip rfl (Nat.le_of_lt enough)).symm

/-- What is in front of the first line of a text leaves no lexeme in brackets. -/
theorem lexFrom_firstLine {comment joined indented : Bool} {t : List Char}
    (first : firstLine comment joined indented t = some s) (filled : s ≠ [])
    (inside : brackets ≠ []) (enough : t.length + 2 ≤ fuel) :
    lexFrom fuel brackets ((if comment then '#' :: t else t) ++ [')']) =
      lexFrom fuel brackets (s ++ [')']) := by
  fun_induction firstLine comment joined indented t generalizing fuel with
  | case1 => exact absurd (Option.some.inj first).symm filled
  | case2 joined indented next rest hyp =>
    rw [← hyp first (Nat.le_of_succ_le enough)]
    exact lexFrom_comment_cons (by decide) (by simpa using enough)
  | case3 comment joined indented next rest code hyp =>
    simp only [code] at first hyp ⊢
    rw [← hyp first (Nat.le_of_succ_le (Nat.le_of_succ_le enough))]
    exact lexFrom_skip rfl (by simpa using Nat.le_of_succ_le enough)
  | case4 comment joined indented rest escape hyp =>
    have fits : (rest ++ [')']).length + 1 ≤ fuel := by simpa using Nat.le_of_succ_le enough
    rw [← hyp first (Nat.le_of_succ_le enough)]
    refine Eq.trans ?_ (lexFrom_lineEnd inside fits)
    cases comment with
    | false => rfl
    | true =>
      refine lexFrom_skip rfl ?_
      simp only [if_true, List.length_append, List.length_cons, List.length_nil] at enough ⊢
      omega
  | case5 joined indented c rest escape single hyp =>
    rw [← hyp first (Nat.le_of_succ_le enough)]
    exact lexFrom_comment_cons single (by simpa using enough)
  | case6 comment joined indented rest code escape single hyp =>
    simp only [code]
    exact hyp first (Nat.le_of_succ_le enough)
  | case7 comment joined indented c rest escape single code other blank hyp =>
    simp only [code] at first hyp ⊢
    rw [← hyp first (Nat.le_of_succ_le enough)]
    refine lexFrom_skip ?_ (by simpa using Nat.le_of_succ_le enough)
    obtain rfl | rfl := blank <;> rfl
  | case8 comment joined indented rest code escape single other blank hyp =>
    simp only [code] at first hyp ⊢
    rw [← hyp first (Nat.le_of_succ_le enough)]
    exact lexFrom_skip rfl (by simpa using Nat.le_of_succ_le enough)
  | case9 => cases first
  | case10 comment joined indented c rest escape single code =>
    simp only [code]
    cases first
    rfl

/-- The last step through a text that ends neither with a blank nor with a comment. -/
theorem Steps.exists_lexeme (step : Steps brackets s read? inner rest) (done : rest = [])
    (open_ : ¬EndsInComment brackets s)
    (ends : ∀ c, s.getLast? = some c → c ∉ [' ', '\t', '\x0c', '\n']) :
    ∃ lexeme, read? = some lexeme ∧ lexeme ≠ .newline := by
  cases step with
  | blank skipped =>
    subst done
    obtain rfl | rfl | rfl := skipped <;> exact absurd (by decide) (ends _ rfl)
  | comment =>
    refine absurd (.here fun member => ?_) open_
    exact of_decide_eq_true (List.dropWhile_eq_nil_iff.mp done _ member) rfl
  | lineEnd =>
    subst done
    exact absurd (by decide) (ends '\n' rfl)
  | joined => cases done
  | lexeme plain reads known => exact ⟨_, rfl, readLexeme_ne_newline reads⟩

/-- A text that ends neither with a blank nor with a comment does not end with a line end. -/
theorem exists_last {fuel : Nat} (reads : lexFrom fuel brackets s = some lexemes)
    (open_ : ¬EndsInComment brackets s) (filled : s ≠ [])
    (ends : ∀ c, s.getLast? = some c → c ∉ [' ', '\t', '\x0c', '\n']) :
    ∃ last, lexemes.getLast? = some last ∧ last ≠ .newline := by
  induction fuel using Nat.strong_induction_on generalizing brackets s lexemes with
  | _ fuel hyp =>
    obtain ⟨less, read?, inner, rest, behind, rfl, step, follow, rfl⟩ :=
      exists_lexStep filled reads
    have steps := steps_of_lexStep step
    by_cases done : rest = []
    · obtain ⟨lexeme, rfl, other⟩ := steps.exists_lexeme done open_ ends
      have none_ : behind = [] := by
        subst done
        cases less <;> simp_all [lexFrom]
      exact ⟨lexeme, by simp [none_], other⟩
    · obtain ⟨front, whole⟩ := steps.suffix.1
      have further : ∀ c, rest.getLast? = some c → c ∉ [' ', '\t', '\x0c', '\n'] := by
        rintro c last
        refine ends c ?_
        rw [← whole, List.getLast?_append, last]
        rfl
      obtain ⟨last, behindLast, other⟩ :=
        hyp less less.lt_succ_self follow (fun last => open_ (.behind step last)) done further
      refine ⟨last, ?_, other⟩
      rw [List.getLast?_append, behindLast]
      rfl

/-! A text in brackets behind "not". -/

theorem firstLine_suffix {comment joined indented : Bool} {t : List Char}
    (first : firstLine comment joined indented t = some s) : s <:+ t := by
  fun_induction firstLine comment joined indented t with
  | case1 => cases first; exact List.suffix_rfl
  | case2 joined indented next rest hyp => exact (hyp first).trans (List.suffix_cons _ _)
  | case3 comment joined indented next rest code hyp =>
    exact (hyp first).trans ⟨['\\', '\n'], rfl⟩
  | case4 comment joined indented rest escape hyp => exact (hyp first).trans (List.suffix_cons _ _)
  | case5 joined indented c rest escape single hyp => exact (hyp first).trans (List.suffix_cons _ _)
  | case6 comment joined indented rest code escape single hyp =>
    exact (hyp first).trans (List.suffix_cons _ _)
  | case7 comment joined indented c rest escape single code other blank hyp =>
    exact (hyp first).trans (List.suffix_cons _ _)
  | case8 comment joined indented rest code escape single other blank hyp =>
    exact (hyp first).trans (List.suffix_cons _ _)
  | case9 => cases first
  | case10 => cases first; exact List.suffix_rfl

def negated (s : List Char) : List Char := 'n' :: 'o' :: 't' :: ' ' :: '(' :: (s ++ [')'])

theorem stringStart?_opening (s : List Char) : stringStart? ('(' :: s) = none := by
  rw [Option.eq_none_iff_forall_ne_some]
  rintro ⟨literal, quote, inside⟩ starts
  obtain ⟨letters, whole, mark, plain, known⟩ := stringStart?_eq_some_iff.mp starts
  cases letters with
  | nil =>
    cases whole
    cases mark
  | cons c letters =>
    cases whole
    have short := length_le_of_literalOfLetters? known
    match letters with
    | [] | [_] => simp [literalOfLetters?] at known
    | _ :: _ :: _ => simp at short

theorem lexStep_opening (s : List Char) :
    lexStep [] ('(' :: s) = some (some (.operator "("), ['('], s) := by
  have reads : readLexeme ('(' :: s) = some (.operator "(", s) := by
    rw [readLexeme, stringStart?_opening]
    rfl
  rw [lexStep_plain (by decide), reads]
  rfl

theorem lex_negated {t : List Char} (first : firstLine false false false t = some s)
    (filled : s ≠ []) :
    lex (negated t) =
      (lexFrom (s.length + 2) ['('] (s ++ [')'])).map
        ([.keyword "not", .operator "("] ++ ·) := by
  have short := (firstLine_suffix first).length_le
  have word (s : List Char) : lexStep [] ('n' :: 'o' :: 't' :: ' ' :: s) =
      some (some (.keyword "not"), [], ' ' :: s) := rfl
  have blank (s : List Char) : lexStep [] (' ' :: s) = some (none, [], s) := rfl
  have inside : lexFrom (t.length + 4) ['('] (t ++ [')']) =
      lexFrom (s.length + 2) ['('] (s ++ [')']) := by
    refine (lexFrom_firstLine first filled (by simp) (by simp)).trans ?_
    exact lexFrom_enough (by simp; omega) (by simp) _
  have length : (negated t).length + 1 = t.length + 4 + 1 + 1 + 1 := by simp [negated]
  rw [lex, length, negated, lexFrom_succ _ (word _), lexFrom_succ _ (blank _),
    lexFrom_succ _ (lexStep_opening _), inside]
  simp [Function.comp_def]

end OptionProtocol.Expression
