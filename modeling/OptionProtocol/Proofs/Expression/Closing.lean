import Mathlib.Data.List.TakeWhile
import OptionProtocol.Expression.Grammar

/-! Reading before a closing bracket. What a rule of the grammar looks at is the same with a closing
bracket behind the lexemes, and rules that are made of such rules have this from them. -/

set_option autoImplicit false

namespace OptionProtocol.Expression

abbrev closer : Lexeme := .operator ")"

/-- The lexemes before `rest` have no line end among them. -/
def Consumes (s rest : List Lexeme) : Prop := ∃ used, s = used ++ rest ∧ .newline ∉ used

/-- What is left of `s`, if anything can be read, is left with a closing bracket behind `s` too. -/
def Closing (s : List Lexeme) (plain closed : Option (List Lexeme)) : Prop :=
  ∀ rest, plain = some rest → Consumes s rest ∧ closed = some (rest ++ [closer])

variable {s rest : List Lexeme} {plain closed : Option (List Lexeme)}

theorem Consumes.refl (s : List Lexeme) : Consumes s s := ⟨[], rfl, List.not_mem_nil⟩

theorem Consumes.trans {mid : List Lexeme} (first : Consumes s mid) (second : Consumes mid rest) :
    Consumes s rest := by
  obtain ⟨front, rfl, single⟩ := first
  obtain ⟨back, rfl, also⟩ := second
  exact ⟨front ++ back, by simp, by simp [single, also]⟩

theorem Consumes.cons {lexeme : Lexeme} (other : lexeme ≠ .newline) (inner : Consumes s rest) :
    Consumes (lexeme :: s) rest :=
  Consumes.trans ⟨[lexeme], rfl, by simpa using other.symm⟩ inner

theorem Consumes.single {lexeme : Lexeme} (other : lexeme ≠ .newline) (rest : List Lexeme) :
    Consumes (lexeme :: rest) rest :=
  .cons other (.refl rest)

namespace Closing

theorem none_ : Closing s none closed := by
  rintro rest ⟨⟩

theorem some_ (s : List Lexeme) : Closing s (some s) (some (s ++ [closer])) := by
  rintro rest ⟨⟩
  exact ⟨.refl s, rfl⟩

theorem after {mid : List Lexeme} (front : Consumes s mid) (inner : Closing mid plain closed) :
    Closing s plain closed :=
  fun rest reads => ⟨front.trans (inner rest reads).1, (inner rest reads).2⟩

/-- What comes after a rule may start again at its beginning. -/
theorem peek {f g : List Lexeme → Option (List Lexeme)} (first : Closing s plain closed)
    (second : ∀ mid, Consumes s mid → Closing s (f mid) (g (mid ++ [closer]))) :
    Closing s (plain >>= f) (closed >>= g) := by
  intro rest reads
  obtain ⟨mid, read, follow⟩ := Option.bind_eq_some_iff.mp reads
  obtain ⟨front, same⟩ := first mid read
  rw [same]
  exact second mid front rest follow

theorem bind {f g : List Lexeme → Option (List Lexeme)} (first : Closing s plain closed)
    (second : ∀ mid, Closing mid (f mid) (g (mid ++ [closer]))) :
    Closing s (plain >>= f) (closed >>= g) :=
  first.peek fun mid front => .after front (second mid)

theorem filter {test : List Lexeme → Bool} (same : ∀ s, test (s ++ [closer]) = test s)
    (inner : Closing s plain closed) : Closing s (plain.filter test) (closed.filter test) := by
  intro rest reads
  obtain ⟨read, passes⟩ := Option.filter_eq_some_iff.mp reads
  obtain ⟨front, also⟩ := inner rest read
  exact ⟨front, Option.filter_eq_some_iff.mpr ⟨also, (same rest).trans passes⟩⟩

end Closing

/-! What a rule looks at. -/

theorem expectWord_close (word : String) (s : List Lexeme) :
    expectWord word (s ++ [closer]) = (expectWord word s).map (· ++ [closer]) := by
  match s with
  | [] => rfl
  | lexeme :: s => cases lexeme <;> simp [expectWord]

theorem expect_close (symbol : String) (other : symbol ≠ ")") (s : List Lexeme) :
    expect symbol (s ++ [closer]) = (expect symbol s).map (· ++ [closer]) := by
  match s with
  | [] => simp [expect, other.symm]
  | lexeme :: s => cases lexeme <;> simp [expect]

theorem eq_of_expect {symbol : String} (found : expect symbol s = some rest) :
    s = .operator symbol :: rest := by
  unfold expect at found
  split at found
  · obtain ⟨rfl, same⟩ := Option.ite_none_right_eq_some.mp found
    rw [Option.some.inj same]
  · cases found

theorem expect_consumes {symbol : String} (found : expect symbol s = some rest) :
    Consumes s rest := by
  rw [eq_of_expect found]
  exact .single (by simp) rest

theorem expectWord_consumes {word : String} (found : expectWord word s = some rest) :
    Consumes s rest := by
  unfold expectWord at found
  split at found
  · rename_i next after
    obtain ⟨-, same⟩ := Option.ite_none_right_eq_some.mp found
    cases same
    exact .single (by simp) _
  · cases found

theorem nextIs_close (symbol : String) (other : symbol ≠ ")") (s : List Lexeme) :
    nextIs symbol (s ++ [closer]) = nextIs symbol s := by
  rw [nextIs, expect_close symbol other, Option.isSome_map]
  rfl

theorem close_ne_cons {first : Lexeme} (other : s = [] → first ≠ closer)
    (differs : ∀ rest, s = first :: rest → False) (rest : List Lexeme) :
    s ++ [closer] = first :: rest → False := by
  intro same
  cases s with
  | nil => exact other rfl (List.cons.inj same).1.symm
  | cons lexeme s => exact differs s (by rw [(List.cons.inj same).1])

theorem close_ne_cons_cons {first second : Lexeme} (other : second ≠ closer)
    (differs : ∀ rest, s = first :: second :: rest → False) (rest : List Lexeme) :
    s ++ [closer] = first :: second :: rest → False := by
  intro same
  match s with
  | [] => cases same
  | [lexeme] => exact other (List.cons.inj (List.cons.inj same).2).1.symm
  | lexeme :: next :: s =>
    have same := List.cons.inj same
    exact differs s (by rw [same.1, (List.cons.inj same.2).1])

theorem beginsLoop_close (s : List Lexeme) : beginsLoop (s ++ [closer]) = beginsLoop s := by
  fun_cases beginsLoop s with
  | case1 | case2 => rfl
  | case3 s single async =>
    rw [beginsLoop]
    · exact close_ne_cons (by simp) single
    · exact close_ne_cons (by simp) async

theorem beginsTrailer_close (s : List Lexeme) :
    beginsTrailer (s ++ [closer]) = beginsTrailer s := by
  fun_cases beginsTrailer s with
  | case1 | case2 | case3 => rfl
  | case4 s dot call index =>
    rw [beginsTrailer]
    · exact close_ne_cons (by simp) dot
    · exact close_ne_cons (by simp) call
    · exact close_ne_cons (by simp) index

theorem beginsAssignment_close (s : List Lexeme) :
    beginsAssignment (s ++ [closer]) = beginsAssignment s := by
  fun_cases beginsAssignment s with
  | case1 => rfl
  | case2 s differs =>
    rw [beginsAssignment]
    exact close_ne_cons_cons (by simp) differs

theorem comparison?_close (s : List Lexeme) :
    comparison? (s ++ [closer]) = (comparison? s).map (· ++ [closer]) := by
  fun_cases comparison? s with
  | case1 symbol rest known =>
    simp only [comparison?, List.cons_append, known, if_true, Option.map_some]
  | case2 symbol rest unknown =>
    simp only [comparison?, List.cons_append, if_neg unknown, Option.map_none]
  | case3 | case4 | case5 => rfl
  | case6 rest isNot =>
    rw [List.cons_append, comparison?]
    · rfl
    · exact close_ne_cons (by simp) isNot
  | case7 s symbol notIn among isNot same =>
    cases s with
    | nil => rfl
    | cons lexeme s =>
      rw [comparison?]
      · rfl
      · exact fun operator => close_ne_cons (by simp) (symbol operator)
      · exact close_ne_cons_cons (by simp) notIn
      · exact close_ne_cons (by simp) among
      · exact close_ne_cons_cons (by simp) isNot
      · exact close_ne_cons (by simp) same

theorem comparison?_consumes (found : comparison? s = some rest) : Consumes s rest := by
  unfold comparison? at found
  split at found
  · obtain ⟨-, same⟩ := Option.ite_none_right_eq_some.mp found
    cases same
    exact .cons (by simp) (.refl _)
  · cases found
    exact .cons (by simp) (.cons (by simp) (.refl _))
  · cases found
    exact .cons (by simp) (.refl _)
  · cases found
    exact .cons (by simp) (.cons (by simp) (.refl _))
  · cases found
    exact .cons (by simp) (.refl _)
  · cases found

/-! Rules made of others. -/

def Closes (plain closed : List Lexeme → Option (List Lexeme)) : Prop :=
  ∀ s, Closing s (plain s) (closed (s ++ [closer]))

theorem Closing.expect {symbol : String} (s : List Lexeme) :
    Closing s (Expression.expect symbol s) (Expression.expect symbol (s ++ [closer])) := by
  intro rest found
  refine ⟨expect_consumes found, ?_⟩
  rw [eq_of_expect found]
  exact if_pos rfl

theorem Closing.expectWord {word : String} (s : List Lexeme) :
    Closing s (Expression.expectWord word s) (Expression.expectWord word (s ++ [closer])) := by
  intro rest found
  exact ⟨expectWord_consumes found, by rw [expectWord_close, found]; rfl⟩

theorem Closing.skipWord {word : String} {f g : List Lexeme → Option (List Lexeme)}
    (rule : Closes f g) (s : List Lexeme) :
    Closing s (f ((Expression.expectWord word s).getD s))
      (g ((Expression.expectWord word (s ++ [closer])).getD (s ++ [closer]))) := by
  rw [expectWord_close]
  cases found : Expression.expectWord word s with
  | none => exact rule s
  | some rest => exact .after (expectWord_consumes found) (rule rest)

/-- A comma with more behind it, or the end. -/
theorem Closing.separated (symbol : String) {f g : List Lexeme → Option (List Lexeme)}
    (rule : Closes f g) (s : List Lexeme) :
    Closing s
      (match Expression.expect "," s with
        | some rest => f rest
        | none => Expression.expect symbol s)
      (match Expression.expect "," (s ++ [closer]) with
        | some rest => g rest
        | none => Expression.expect symbol (s ++ [closer])) := by
  rw [expect_close _ (by decide)]
  cases found : Expression.expect "," s with
  | some rest => exact .after (expect_consumes found) (rule rest)
  | none => exact .expect s

theorem expect_filled {symbol : String} (filled : s ≠ []) :
    expect symbol (s ++ [closer]) = (expect symbol s).map (· ++ [closer]) := by
  match s with
  | [] => exact absurd rfl filled
  | lexeme :: s => cases lexeme <;> simp [expect]

theorem dropStrings_close (s : List Lexeme) :
    (s ++ [closer]).dropWhile isString = s.dropWhile isString ++ [closer] := by
  rw [List.dropWhile_append]
  split
  · rename_i all
    rw [List.isEmpty_iff.mp all]
    rfl
  · rfl

theorem dropStrings_consumes (s : List Lexeme) : Consumes s (s.dropWhile isString) := by
  refine ⟨s.takeWhile isString, List.takeWhile_append_dropWhile.symm, fun member => ?_⟩
  cases List.mem_takeWhile_imp member

end OptionProtocol.Expression
