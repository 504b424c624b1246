import Mathlib.Logic.Basic
import OptionProtocol.Proofs.Expression.Closing

/-! The rules of the grammar before a closing bracket. Every rule that reads something reads the
same lexemes, none of which is a line end, with a closing bracket behind them. -/

set_option autoImplicit false

namespace OptionProtocol.Expression

variable {s rest : List Lexeme}

/-! No expression is made of no lexemes or begins with a closing bracket, a star or "yield". -/

def NoBeginning (s : List Lexeme) : Prop :=
  s = [] ∨ ∃ lexeme rest, s = lexeme :: rest ∧
    (lexeme = closer ∨ lexeme = .operator "*" ∨ lexeme = .keyword "yield")

namespace NoBeginning

theorem nil : NoBeginning [] := .inl rfl

variable {fuel : Nat} (stuck : NoBeginning s)

include stuck

theorem atom : atom fuel s = none := by
  cases fuel with
  | zero => rfl
  | succ fuel => obtain rfl | ⟨lexeme, rest, rfl, rfl | rfl | rfl⟩ := stuck <;> rfl

theorem primary : primary fuel s = none := by
  cases fuel with
  | zero => rfl
  | succ fuel =>
    rw [Expression.primary, stuck.atom]
    rfl

theorem expectWord {word : String} (other : word ≠ "yield") :
    Expression.expectWord word s = none := by
  obtain rfl | ⟨lexeme, rest, rfl, rfl | rfl | rfl⟩ := stuck <;>
    simp [Expression.expectWord, other.symm]

theorem factor : factor fuel s = none := by
  cases fuel with
  | zero => rfl
  | succ fuel =>
    rw [Expression.factor, stuck.expectWord (by decide), Option.getD_none, stuck.primary]
    · rfl
    all_goals obtain rfl | ⟨lexeme, rest, rfl, rfl | rfl | rfl⟩ := stuck <;> simp

theorem operation {levels : List (List String)} : operation fuel levels s = none := by
  induction fuel generalizing levels with
  | zero => cases levels <;> rfl
  | succ fuel hyp =>
    cases levels with
    | nil => rw [Expression.operation, stuck.factor]
    | cons symbols levels =>
      rw [Expression.operation, hyp]
      rfl

theorem comparisonChain : comparisonChain fuel s = none := by
  cases fuel with
  | zero => rfl
  | succ fuel =>
    rw [Expression.comparisonChain, stuck.operation]
    rfl

theorem inversion : inversion fuel s = none := by
  cases fuel with
  | zero => rfl
  | succ fuel => rw [Expression.inversion, stuck.expectWord (by decide), stuck.comparisonChain]

theorem conjunction : conjunction fuel s = none := by
  cases fuel with
  | zero => rfl
  | succ fuel =>
    rw [Expression.conjunction, stuck.inversion]
    rfl

theorem disjunction : disjunction fuel s = none := by
  cases fuel with
  | zero => rfl
  | succ fuel =>
    rw [Expression.disjunction, stuck.conjunction]
    rfl

theorem expression : expression fuel s = none := by
  cases fuel with
  | zero => rfl
  | succ fuel =>
    rw [Expression.expression, stuck.disjunction]
    · rfl
    · obtain rfl | ⟨lexeme, rest, rfl, rfl | rfl | rfl⟩ := stuck <;> simp

end NoBeginning

theorem item_nil (fuel : Nat) : item fuel [] = none := by
  match fuel with
  | 0 | 1 => rfl
  | fuel + 2 => simp [item, expect, namedExpression, NoBeginning.nil.expression]

theorem namedExpression_nil (fuel : Nat) : namedExpression fuel [] = none := by
  cases fuel with
  | zero => rfl
  | succ fuel => simp [namedExpression, NoBeginning.nil.expression]

theorem yielded_nil (fuel : Nat) : yielded fuel [] = none := by
  cases fuel with
  | zero => rfl
  | succ fuel => simp [yielded, expect, NoBeginning.nil.expression]

theorem starredTarget_nil (fuel : Nat) : starredTarget fuel [] = none := by
  match fuel with
  | 0 | 1 => rfl
  | fuel + 2 => simp [starredTarget, expect, target.eq_def, NoBeginning.nil.atom]

/-! The rules. -/

/-- What the rules leave with one fuel, they leave with the other as well before a bracket. -/
structure RulesClose (less more : Nat) : Prop where
  expression : Closes (Expression.expression less) (Expression.expression more)
  namedExpression : Closes (Expression.namedExpression less) (Expression.namedExpression more)
  disjunction : Closes (Expression.disjunction less) (Expression.disjunction more)
  conjunction : Closes (Expression.conjunction less) (Expression.conjunction more)
  inversion : Closes (Expression.inversion less) (Expression.inversion more)
  comparisonChain : Closes (Expression.comparisonChain less) (Expression.comparisonChain more)
  operation (levels : List (List String)) (other : ∀ symbols ∈ levels, ")" ∉ symbols) :
    Closes (Expression.operation less levels) (Expression.operation more levels)
  factor : Closes (Expression.factor less) (Expression.factor more)
  primary : Closes (Expression.primary less) (Expression.primary more)
  trailer : Closes (Expression.trailer less) (Expression.trailer more)
  trailers : Closes (Expression.trailers less) (Expression.trailers more)
  atom : Closes (Expression.atom less) (Expression.atom more)
  item : Closes (Expression.item less) (Expression.item more)
  items (closing : String) : Closes (Expression.items less closing) (Expression.items more closing)
  afterFirst (closing : String) :
    Closes (Expression.afterFirst less closing) (Expression.afterFirst more closing)
  parenthesized : Closes (Expression.parenthesized less) (Expression.parenthesized more)
  yielded : Closes (Expression.yielded less) (Expression.yielded more)
  bracketed : Closes (Expression.bracketed less) (Expression.bracketed more)
  braced : Closes (Expression.braced less) (Expression.braced more)
  entries : Closes (Expression.entries less) (Expression.entries more)
  loops : Closes (Expression.loops less) (Expression.loops more)
  conditions : Closes (Expression.conditions less) (Expression.conditions more)
  targets : Closes (Expression.targets less) (Expression.targets more)
  starredTarget : Closes (Expression.starredTarget less) (Expression.starredTarget more)
  target : Closes (Expression.target less) (Expression.target more)
  targetTrailers : Closes (Expression.targetTrailers less) (Expression.targetTrailers more)
  targetTuple (isFirst : Bool) :
    Closes (Expression.targetTuple less isFirst) (Expression.targetTuple more isFirst)
  targetList : Closes (Expression.targetList less) (Expression.targetList more)
  arguments (isFirst : Bool) (phase : ArgumentPhase) :
    Closes (Expression.arguments less isFirst phase) (Expression.arguments more isFirst phase)
  slices (isFirst : Bool) :
    Closes (Expression.slices less isFirst) (Expression.slices more isFirst)
  slice : Closes (Expression.slice less) (Expression.slice more)
  sliceBounds : Closes (Expression.sliceBounds less) (Expression.sliceBounds more)
  parameters (phase : ParameterPhase) :
    Closes (Expression.parameters less phase) (Expression.parameters more phase)

section Rules

variable {less more : Nat} (hyp : RulesClose less more)

include hyp

theorem disjunction_closes : Closes (disjunction (less + 1)) (disjunction (more + 1)) := by
  intro s
  rw [disjunction, disjunction]
  refine (hyp.conjunction s).bind fun mid => ?_
  rw [expectWord_close]
  cases found : expectWord "or" mid with
  | none => exact .some_ mid
  | some rest => exact .after (expectWord_consumes found) (hyp.disjunction rest)

theorem conjunction_closes : Closes (conjunction (less + 1)) (conjunction (more + 1)) := by
  intro s
  rw [conjunction, conjunction]
  refine (hyp.inversion s).bind fun mid => ?_
  rw [expectWord_close]
  cases found : expectWord "and" mid with
  | none => exact .some_ mid
  | some rest => exact .after (expectWord_consumes found) (hyp.conjunction rest)

theorem inversion_closes : Closes (inversion (less + 1)) (inversion (more + 1)) := by
  intro s
  rw [inversion, inversion, expectWord_close]
  cases found : expectWord "not" s with
  | none => exact hyp.comparisonChain s
  | some rest => exact .after (expectWord_consumes found) (hyp.inversion rest)

theorem comparisonChain_closes :
    Closes (comparisonChain (less + 1)) (comparisonChain (more + 1)) := by
  intro s
  rw [comparisonChain, comparisonChain]
  refine (hyp.operation binaryOperators (by decide) s).bind fun mid => ?_
  rw [comparison?_close]
  cases found : comparison? mid with
  | none => exact .some_ mid
  | some rest => exact .after (comparison?_consumes found) (hyp.comparisonChain rest)

theorem operation_closes (levels : List (List String)) (other : ∀ symbols ∈ levels, ")" ∉ symbols) :
    Closes (operation (less + 1) levels) (operation (more + 1) levels) := by
  intro s
  cases levels with
  | nil => exact hyp.factor s
  | cons symbols levels =>
    rw [operation, operation]
    refine (hyp.operation levels (fun inner member => other inner (.tail _ member)) s).bind
      fun mid => ?_
    split
    · rename_i symbol rest
      rw [List.cons_append]
      dsimp only
      split
      · exact .after (.single (by simp) rest) (hyp.operation (symbols :: levels) other rest)
      · exact .some_ _
    · rename_i differs
      cases mid with
      | nil =>
        have unknown : ")" ∉ symbols := other symbols List.mem_cons_self
        simpa [unknown] using Closing.some_ []
      | cons lexeme rest =>
        cases lexeme with
        | operator symbol => exact absurd rfl (differs symbol rest)
        | _ => exact .some_ _

theorem factor_closes : Closes (factor (less + 1)) (factor (more + 1)) := by
  intro s
  rw [factor.eq_def (less + 1) s]
  dsimp only
  split
  · rename_i rest
    exact .after (.single (by simp) rest) (hyp.factor rest)
  · rename_i rest
    exact .after (.single (by simp) rest) (hyp.factor rest)
  · rename_i rest
    exact .after (.single (by simp) rest) (hyp.factor rest)
  · rename_i plus minus tilde
    rw [factor]
    · refine (Closing.skipWord hyp.primary s).bind fun mid => ?_
      rw [expect_close _ (by decide)]
      cases found : expect "**" mid with
      | none => exact .some_ mid
      | some rest => exact .after (expect_consumes found) (hyp.factor rest)
    · exact close_ne_cons (by simp) plus
    · exact close_ne_cons (by simp) minus
    · exact close_ne_cons (by simp) tilde

theorem primary_closes : Closes (primary (less + 1)) (primary (more + 1)) := by
  intro s
  rw [primary, primary]
  exact (hyp.atom s).bind fun mid => hyp.trailers mid

theorem trailer_closes : Closes (trailer (less + 1)) (trailer (more + 1)) := by
  intro s
  unfold trailer
  split
  · exact .after (.cons (by simp) (.single (by simp) _)) (.some_ _)
  · exact .after (.single (by simp) _) (hyp.arguments true .positional _)
  · exact .after (.single (by simp) _) (hyp.slices true _)
  · exact .none_

theorem trailers_closes : Closes (trailers (less + 1)) (trailers (more + 1)) := by
  intro s
  rw [trailers, trailers, beginsTrailer_close]
  split
  · exact (hyp.trailer s).bind fun mid => hyp.trailers mid
  · exact .some_ s

theorem atom_closes : Closes (atom (less + 1)) (atom (more + 1)) := by
  intro s
  unfold atom
  split
  · exact .after (.single (by simp) _) (.some_ _)
  · exact .after (.single (by simp) _) (.some_ _)
  · exact .after (.single (by simp) _) (.some_ _)
  · exact .after (.single (by simp) _) (.some_ _)
  · exact .after (.single (by simp) _) (.some_ _)
  · rename_i rest
    refine .after (.single (by simp) rest) ?_
    rw [List.cons_append]
    dsimp only
    rw [dropStrings_close]
    exact .after (dropStrings_consumes rest) (.some_ _)
  · exact .after (.single (by simp) _) (.some_ _)
  · exact .after (.single (by simp) _) (hyp.parenthesized _)
  · exact .after (.single (by simp) _) (hyp.bracketed _)
  · exact .after (.single (by simp) _) (hyp.braced _)
  · exact .none_

theorem item_closes : Closes (item (less + 1)) (item (more + 1)) := by
  intro s
  rw [item, item, expect_close _ (by decide)]
  cases found : expect "*" s with
  | none => exact hyp.namedExpression s
  | some rest =>
    exact .after (expect_consumes found) (hyp.operation binaryOperators (by decide) rest)

theorem items_closes (closing : String) :
    Closes (items (less + 1) closing) (items (more + 1) closing) := by
  intro s
  obtain rfl | filled := eq_or_ne s []
  · rw [items, item_nil]
    exact .none_
  · rw [items, items, expect_filled filled]
    cases found : expect closing s with
    | some rest => exact .after (expect_consumes found) (.some_ rest)
    | none =>
      exact (hyp.item s).bind fun mid => .separated closing (hyp.items closing) mid

theorem afterFirst_closes (closing : String) :
    Closes (afterFirst (less + 1) closing) (afterFirst (more + 1) closing) := by
  intro s
  rw [afterFirst, afterFirst, beginsLoop_close]
  split
  · exact (hyp.loops s).bind fun mid => .expect mid
  · exact .separated closing (hyp.items closing) s

theorem parenthesized_closes : Closes (parenthesized (less + 1)) (parenthesized (more + 1)) := by
  intro s
  rw [parenthesized.eq_def (less + 1) s]
  dsimp only
  split
  · rename_i rest
    exact .after (.single (by simp) rest) (.some_ rest)
  · rename_i rest
    exact .after (.cons (by simp) (.single (by simp) rest))
      ((hyp.expression rest).bind fun mid => .expect mid)
  · rename_i rest
    exact .after (.cons (by simp) (.single (by simp) rest)) (.some_ rest)
  · rename_i rest source closed
    obtain rfl | filled := eq_or_ne rest []
    · rw [yielded_nil]
      exact .none_
    · rw [List.cons_append, parenthesized]
      · exact .after (.single (by simp) rest) (hyp.yielded rest)
      · exact close_ne_cons (by simp) source
      · exact close_ne_cons (fun empty => absurd empty filled) closed
  · rename_i rest
    refine .after (.single (by simp) rest) ?_
    refine (hyp.operation binaryOperators (by decide) rest).bind fun mid => ?_
    exact (Closing.expect mid).bind fun mid => hyp.items ")" mid
  · rename_i closed source ended yield_ star
    obtain rfl | filled := eq_or_ne s []
    · rw [namedExpression_nil]
      exact .none_
    · rw [parenthesized]
      · exact (hyp.namedExpression s).bind fun mid => hyp.afterFirst ")" mid
      · exact close_ne_cons (fun empty => absurd empty filled) closed
      · exact close_ne_cons_cons (by simp) source
      · exact fun rest => close_ne_cons (by simp) yield_ (_ :: rest)
      · exact close_ne_cons (by simp) yield_
      · exact close_ne_cons (by simp) star

theorem expression_closes : Closes (expression (less + 1)) (expression (more + 1)) := by
  intro s
  rw [expression.eq_def (less + 1) s]
  dsimp only
  split
  · rename_i rest
    exact .after (.single (by simp) rest)
      ((hyp.parameters {} rest).bind fun mid => hyp.expression mid)
  · rename_i differs
    rw [expression]
    · refine (hyp.disjunction s).bind fun mid => ?_
      rw [expectWord_close]
      cases found : expectWord "if" mid with
      | none => exact .some_ mid
      | some rest =>
        refine .after (expectWord_consumes found) ?_
        refine (hyp.disjunction rest).bind fun mid => ?_
        exact (Closing.expectWord mid).bind fun mid => hyp.expression mid
    · exact close_ne_cons (by simp) differs

theorem namedExpression_closes :
    Closes (namedExpression (less + 1)) (namedExpression (more + 1)) := by
  intro s
  rw [namedExpression.eq_def (less + 1) s]
  dsimp only
  split
  · rename_i rest
    exact .after (.cons (by simp) (.single (by simp) rest)) (hyp.expression rest)
  · rename_i differs
    rw [namedExpression]
    · refine (hyp.expression s).filter fun mid => ?_
      rw [nextIs_close _ (by decide)]
    · exact close_ne_cons_cons (by simp) differs

theorem yieldedEnd_closes (s : List Lexeme) :
    Closing s
      (match expect "," s with
        | none => expect ")" s
        | some rest =>
            match expect ")" rest with
            | some rest => some rest
            | none => yielded less rest)
      (match expect "," (s ++ [closer]) with
        | none => expect ")" (s ++ [closer])
        | some rest =>
            match expect ")" rest with
            | some rest => some rest
            | none => yielded more rest) := by
  rw [expect_close _ (by decide)]
  cases comma : expect "," s with
  | none => exact .expect s
  | some rest =>
    refine .after (expect_consumes comma) ?_
    obtain rfl | filled := eq_or_ne rest []
    · simp only [yielded_nil]
      exact .none_
    · simp only [Option.map_some, expect_filled filled]
      cases found : expect ")" rest with
      | some rest => exact .after (expect_consumes found) (.some_ rest)
      | none => exact hyp.yielded rest

theorem yielded_closes : Closes (yielded (less + 1)) (yielded (more + 1)) := by
  intro s
  rw [yielded, yielded, expect_close _ (by decide)]
  cases found : expect "*" s with
  | some rest =>
    exact .after (expect_consumes found) ((hyp.operation binaryOperators (by decide) rest).bind
      fun mid => yieldedEnd_closes hyp mid)
  | none => exact (hyp.expression s).bind fun mid => yieldedEnd_closes hyp mid

theorem bracketed_closes : Closes (bracketed (less + 1)) (bracketed (more + 1)) := by
  intro s
  rw [bracketed, bracketed, nextIs_close _ (by decide),
    nextIs_close _ (by decide)]
  split
  · exact hyp.items "]" s
  · exact (hyp.namedExpression s).bind fun mid => hyp.afterFirst "]" mid

theorem conditions_closes : Closes (conditions (less + 1)) (conditions (more + 1)) := by
  intro s
  rw [conditions, conditions, expectWord_close]
  cases found : expectWord "if" s with
  | none => exact .some_ s
  | some rest =>
    exact .after (expectWord_consumes found)
      ((hyp.disjunction rest).bind fun mid => hyp.conditions mid)

theorem braced_closes : Closes (braced (less + 1)) (braced (more + 1)) := by
  intro s
  rw [braced, braced, nextIs_close _ (by decide), nextIs_close _ (by decide),
    nextIs_close _ (by decide), beginsAssignment_close]
  split
  · exact hyp.entries s
  split
  · exact hyp.items "\x7d" s
  refine (hyp.namedExpression s).bind fun mid => ?_
  rw [expect_close _ (by decide)]
  cases assigned : beginsAssignment s with
  | true => exact hyp.afterFirst "\x7d" mid
  | false =>
    simp only [Bool.false_eq_true, if_false]
    cases found : expect ":" mid with
    | none => exact hyp.afterFirst "\x7d" mid
    | some rest =>
      refine .after (expect_consumes found) ((hyp.expression rest).bind fun mid => ?_)
      rw [beginsLoop_close]
      split
      · exact (hyp.loops mid).bind fun mid => .expect mid
      · exact .separated "\x7d" hyp.entries mid

theorem entries_closes : Closes (entries (less + 1)) (entries (more + 1)) := by
  intro s
  rw [entries, entries, expect_close _ (by decide)]
  cases closed : expect "\x7d" s with
  | some rest => exact .after (expect_consumes closed) (.some_ rest)
  | none =>
    simp only [Option.map_none, expect_close "**" (by decide)]
    cases unpacked : expect "**" s with
    | some rest =>
      exact .after (expect_consumes unpacked)
        ((hyp.operation binaryOperators (by decide) rest).bind
          fun mid => .separated "\x7d" hyp.entries mid)
    | none =>
      refine (hyp.expression s).bind fun mid => ?_
      refine (Closing.expect mid).bind fun mid => ?_
      exact (hyp.expression mid).bind fun mid => .separated "\x7d" hyp.entries mid

theorem loops_closes : Closes (loops (less + 1)) (loops (more + 1)) := by
  intro s
  rw [loops, loops]
  refine (Closing.skipWord (fun s => .expectWord s) s).bind fun mid => ?_
  refine (hyp.targets mid).bind fun mid => ?_
  refine (Closing.expectWord mid).bind fun mid => ?_
  refine (hyp.disjunction mid).bind fun mid => ?_
  refine (hyp.conditions mid).bind fun mid => ?_
  rw [beginsLoop_close]
  split
  · exact hyp.loops mid
  · exact .some_ mid

theorem targets_closes : Closes (targets (less + 1)) (targets (more + 1)) := by
  intro s
  rw [targets, targets]
  refine (hyp.starredTarget s).bind fun mid => ?_
  rw [expect_close _ (by decide)]
  cases found : expect "," mid with
  | none => exact .some_ mid
  | some rest =>
    refine .after (expect_consumes found) ?_
    simp only [Option.map_some, expectWord_close, Option.isSome_map]
    split
    · exact .some_ rest
    · exact hyp.targets rest

theorem starredTarget_closes : Closes (starredTarget (less + 1)) (starredTarget (more + 1)) := by
  intro s
  rw [starredTarget, starredTarget, expect_close _ (by decide)]
  cases found : expect "*" s with
  | none => exact hyp.target s
  | some rest =>
    simp only [Option.map_some, nextIs_close "*" (by decide)]
    split
    · exact .none_
    · exact .after (expect_consumes found) (hyp.starredTarget rest)

theorem target_closes : Closes (target (less + 1)) (target (more + 1)) := by
  intro s
  rw [target.eq_def (less + 1), target.eq_def (more + 1)]
  refine (hyp.atom s).peek fun mid front => ?_
  rw [beginsTrailer_close]
  split
  · exact .after front (hyp.targetTrailers mid)
  · split
    · exact .after (.single (by simp) _) (.some_ _)
    · exact .after (.single (by simp) _) (hyp.targetTuple true _)
    · exact .after (.single (by simp) _) (hyp.targetList _)
    · exact .none_

theorem targetTrailers_closes :
    Closes (targetTrailers (less + 1)) (targetTrailers (more + 1)) := by
  intro s
  rw [targetTrailers, targetTrailers, nextIs_close _ (by decide)]
  refine (hyp.trailer s).bind fun mid => ?_
  rw [beginsTrailer_close]
  split
  · exact hyp.targetTrailers mid
  split
  · exact .none_
  · exact .some_ mid

theorem targetTuple_closes (isFirst : Bool) :
    Closes (targetTuple (less + 1) isFirst) (targetTuple (more + 1) isFirst) := by
  intro s
  obtain rfl | filled := eq_or_ne s []
  · rw [targetTuple, starredTarget_nil]
    exact .none_
  · rw [targetTuple, targetTuple, expect_filled filled, nextIs_close _ (by decide)]
    cases found : expect ")" s with
    | some rest => exact .after (expect_consumes found) (.some_ rest)
    | none =>
      refine (hyp.starredTarget s).bind fun mid => ?_
      rw [expect_close _ (by decide)]
      cases found : expect "," mid with
      | some rest => exact .after (expect_consumes found) (hyp.targetTuple false rest)
      | none =>
        dsimp only
        split
        · exact .none_
        · exact .expect mid

theorem targetList_closes : Closes (targetList (less + 1)) (targetList (more + 1)) := by
  intro s
  rw [targetList, targetList, expect_close _ (by decide)]
  cases found : expect "]" s with
  | some rest => exact .after (expect_consumes found) (.some_ rest)
  | none =>
    exact (hyp.starredTarget s).bind fun mid => .separated "]" hyp.targetList mid

theorem slices_closes (isFirst : Bool) :
    Closes (slices (less + 1) isFirst) (slices (more + 1) isFirst) := by
  intro s
  rw [slices, slices, nextIs_close _ (by decide)]
  split
  · exact .expect s
  · exact (hyp.slice s).bind fun mid => .separated "]" (hyp.slices false) mid

theorem slice_closes : Closes (slice (less + 1)) (slice (more + 1)) := by
  intro s
  rw [slice, slice, expect_close _ (by decide), expect_close _ (by decide), beginsAssignment_close]
  cases starred : expect "*" s with
  | some rest => exact .after (expect_consumes starred) (hyp.expression rest)
  | none =>
    cases found : expect ":" s with
    | some rest => exact .after (expect_consumes found) (hyp.sliceBounds rest)
    | none =>
      refine (hyp.namedExpression s).bind fun mid => ?_
      rw [expect_close _ (by decide)]
      cases assigned : beginsAssignment s with
      | true => exact .some_ mid
      | false =>
        simp only [Bool.false_eq_true, if_false]
        cases found : expect ":" mid with
        | some rest => exact .after (expect_consumes found) (hyp.sliceBounds rest)
        | none => exact .some_ mid

theorem sliceBounds_closes : Closes (sliceBounds (less + 1)) (sliceBounds (more + 1)) := by
  have absent (s : List Lexeme) :
      (nextIs ":" (s ++ [closer]) || nextIs "," (s ++ [closer]) || nextIs "]" (s ++ [closer])) =
        (nextIs ":" s || nextIs "," s || nextIs "]" s) := by
    rw [nextIs_close _ (by decide), nextIs_close _ (by decide), nextIs_close _ (by decide)]
  have end_ (s : List Lexeme) : Closing s
      (match expect ":" s with
        | none => some s
        | some rest =>
            if nextIs ":" rest || nextIs "," rest || nextIs "]" rest then some rest
            else expression less rest)
      (match expect ":" (s ++ [closer]) with
        | none => some (s ++ [closer])
        | some rest =>
            if nextIs ":" rest || nextIs "," rest || nextIs "]" rest then some rest
            else expression more rest) := by
    rw [expect_close _ (by decide)]
    cases found : expect ":" s with
    | none => exact .some_ s
    | some rest =>
      simp only [Option.map_some, absent]
      refine .after (expect_consumes found) ?_
      split
      · exact .some_ rest
      · exact hyp.expression rest
  intro s
  rw [sliceBounds, sliceBounds]
  simp only [absent]
  split
  · exact end_ s
  · exact (hyp.expression s).bind fun mid => end_ mid

theorem arguments_closes (isFirst : Bool) (phase : ArgumentPhase) :
    Closes (arguments (less + 1) isFirst phase) (arguments (more + 1) isFirst phase) := by
  intro s
  rw [arguments.eq_def (less + 1)]
  dsimp only
  split
  · exact .after (.single (by simp) _) (.some_ _)
  · rename_i rest
    exact .after (.single (by simp) rest) ((hyp.expression rest).bind
      fun mid => .separated ")" (hyp.arguments false .mapping) mid)
  · rename_i rest
    rw [List.cons_append, arguments]
    split
    · exact .none_
    · exact .after (.single (by simp) rest) ((hyp.expression rest).bind
        fun mid => .separated ")" (hyp.arguments false phase) mid)
  · rename_i rest
    exact .after (.cons (by simp) (.single (by simp) rest)) ((hyp.expression rest).bind
      fun mid => .separated ")" (hyp.arguments false _) mid)
  · rename_i closed mapping star keyword
    obtain rfl | filled := eq_or_ne s []
    · rw [namedExpression_nil]
      split
      · exact .none_
      · exact .none_
    · rw [arguments]
      · split
        · exact .none_
        · refine (hyp.namedExpression s).bind fun mid => ?_
          rw [beginsLoop_close]
          split
          · exact (hyp.loops mid).bind fun mid => .expect mid
          · exact .separated ")" (hyp.arguments false .positional) mid
      · exact close_ne_cons (fun empty => absurd empty filled) closed
      · exact close_ne_cons (by simp) mapping
      · exact close_ne_cons (by simp) star
      · exact close_ne_cons_cons (by simp) keyword

theorem parameters_closes (phase : ParameterPhase) :
    Closes (parameters (less + 1) phase) (parameters (more + 1) phase) := by
  intro s
  rw [parameters.eq_def (less + 1)]
  dsimp only
  split
  · rename_i rest
    rw [List.cons_append, parameters]
    split
    · exact .none_
    · exact .after (.single (by simp) rest) (.some_ rest)
  · rename_i rest
    rw [List.cons_append, parameters]
    split
    · exact .after (.single (by simp) rest) (.separated ":" (hyp.parameters _) rest)
    · exact .none_
  · rename_i rest
    rw [List.cons_append, List.cons_append, parameters]
    split
    · exact .none_
    · exact .after (.cons (by simp) (.single (by simp) rest)) (hyp.parameters _ rest)
  · rename_i rest
    rw [List.cons_append, List.cons_append, parameters]
    split
    · exact .none_
    · exact .after (.cons (by simp) (.single (by simp) rest))
        (.separated ":" (hyp.parameters _) rest)
  · rename_i rest
    rw [List.cons_append, List.cons_append, parameters]
    split
    · exact .none_
    · refine .after (.cons (by simp) (.single (by simp) rest)) ?_
      rw [expect_close "," (by decide)]
      cases found : expect "," rest with
      | none => exact .expect rest
      | some rest => exact .after (expect_consumes found) (.expect rest)
  · rename_i rest
    exact .after (.cons (by simp) (.single (by simp) rest)) ((hyp.expression rest).bind
      fun mid => .separated ":" (hyp.parameters _) mid)
  · rename_i rest defaulted
    rw [List.cons_append, parameters]
    · split
      · exact .none_
      · exact .after (.single (by simp) rest) (.separated ":" (hyp.parameters _) rest)
    · exact close_ne_cons (by simp) defaulted
  · exact .none_

end Rules

/-- Every rule reads the same lexemes with a closing bracket behind them, and with more fuel. -/
theorem rulesClose {less more : Nat} (enough : less ≤ more) : RulesClose less more := by
  induction less generalizing more with
  | zero =>
    exact {
      expression := fun s => .none_
      namedExpression := fun s => .none_
      disjunction := fun s => .none_
      conjunction := fun s => .none_
      inversion := fun s => .none_
      comparisonChain := fun s => .none_
      operation := fun levels _ s => by cases levels <;> exact .none_
      factor := fun s => .none_
      primary := fun s => .none_
      trailer := fun s => .none_
      trailers := fun s => .none_
      atom := fun s => .none_
      item := fun s => .none_
      items := fun _ s => .none_
      afterFirst := fun _ s => .none_
      parenthesized := fun s => .none_
      yielded := fun s => .none_
      bracketed := fun s => .none_
      braced := fun s => .none_
      entries := fun s => .none_
      loops := fun s => .none_
      conditions := fun s => .none_
      targets := fun s => .none_
      starredTarget := fun s => .none_
      target := fun s => .none_
      targetTrailers := fun s => .none_
      targetTuple := fun _ s => .none_
      targetList := fun s => .none_
      arguments := fun _ _ s => .none_
      slices := fun _ s => .none_
      slice := fun s => .none_
      sliceBounds := fun s => .none_
      parameters := fun _ s => .none_ }
  | succ less hyp =>
    obtain ⟨more, rfl⟩ : ∃ spare, more = spare + 1 := ⟨more - 1, by omega⟩
    have hyp := hyp (Nat.le_of_succ_le_succ enough)
    exact {
      expression := expression_closes hyp
      namedExpression := namedExpression_closes hyp
      disjunction := disjunction_closes hyp
      conjunction := conjunction_closes hyp
      inversion := inversion_closes hyp
      comparisonChain := comparisonChain_closes hyp
      operation := operation_closes hyp
      factor := factor_closes hyp
      primary := primary_closes hyp
      trailer := trailer_closes hyp
      trailers := trailers_closes hyp
      atom := atom_closes hyp
      item := item_closes hyp
      items := items_closes hyp
      afterFirst := afterFirst_closes hyp
      parenthesized := parenthesized_closes hyp
      yielded := yielded_closes hyp
      bracketed := bracketed_closes hyp
      braced := braced_closes hyp
      entries := entries_closes hyp
      loops := loops_closes hyp
      conditions := conditions_closes hyp
      targets := targets_closes hyp
      starredTarget := starredTarget_closes hyp
      target := target_closes hyp
      targetTrailers := targetTrailers_closes hyp
      targetTuple := targetTuple_closes hyp
      targetList := targetList_closes hyp
      arguments := arguments_closes hyp
      slices := slices_closes hyp
      slice := slice_closes hyp
      sliceBounds := sliceBounds_closes hyp
      parameters := parameters_closes hyp }

end OptionProtocol.Expression
