import OptionProtocol.Expression.TextValue
import OptionProtocol.Proofs.Expression.Lexemes

/-! Texts of literals. Characters other than quotes and backslashes stand for themselves, wherever
they are in a literal. -/

set_option autoImplicit false

namespace OptionProtocol.Expression

variable {s front rest chars : List Char} {c quote : Char} {length : Nat}

theorem unescapedFrom_eq (taken : Nat) (s : List Char) :
    unescapedFrom taken s = unescaped (s.drop taken) := by
  induction taken generalizing s with
  | zero => rfl
  | succ taken hyp =>
    cases s with
    | nil => rfl
    | cons c s => exact hyp s

theorem unescaped_cons (plain : c ≠ '\\') (s : List Char) :
    unescaped (c :: s) = (unescaped s).map (c :: ·) := by
  simp [unescaped, unescapedFrom, plain]

theorem unescaped_escape (known : escape? rest = some (chars, length)) :
    unescaped ('\\' :: rest) = (unescaped (rest.drop length)).map (chars ++ ·) := by
  rw [unescaped, unescapedFrom, if_pos rfl, known, Option.bind_some]
  simp only [unescapedFrom_eq]

theorem unescaped_pair {d : Char} (known : escape? (c :: s) = some ([d], 1)) :
    unescaped ('\\' :: c :: s) = (unescaped s).map (d :: ·) :=
  unescaped_escape known

theorem unescaped_append (plain : '\\' ∉ front) (s : List Char) :
    unescaped (front ++ s) = (unescaped s).map (front ++ ·) := by
  induction front with
  | nil => simp
  | cons c front hyp =>
    rw [List.mem_cons, not_or] at plain
    rw [List.cons_append, unescaped_cons (Ne.symm plain.1), hyp plain.2, Option.map_map]
    rfl

theorem shortBody_escape (quote c : Char) (s : List Char) :
    shortBody quote ('\\' :: c :: s) =
      (shortBody quote s).map fun (body, rest) => ('\\' :: c :: body, rest) :=
  rfl

theorem shortBody_plain (plain : ∀ c ∈ front, c ≠ quote ∧ c ≠ '\\' ∧ c ≠ '\n') (s : List Char) :
    shortBody quote (front ++ s) =
      (shortBody quote s).map fun (body, rest) => (front ++ body, rest) := by
  induction front with
  | nil => simp
  | cons c front hyp =>
    obtain ⟨unquoted, unescaped, single⟩ := plain c List.mem_cons_self
    rw [List.cons_append, shortBody_cons unescaped, if_neg unquoted, if_neg single,
      hyp fun d member => plain d (List.mem_cons_of_mem c member), Option.map_map]
    rfl

theorem longBody_escape (quote c : Char) (s : List Char) :
    longBody quote ('\\' :: c :: s) =
      (longBody quote s).map fun (body, rest) => ('\\' :: c :: body, rest) :=
  rfl

theorem longBody_plain (unquoted : quote ∉ front) (plain : '\\' ∉ front) (s : List Char) :
    longBody quote (front ++ s) =
      (longBody quote s).map fun (body, rest) => (front ++ body, rest) := by
  induction front with
  | nil => simp
  | cons c front hyp =>
    rw [List.mem_cons, not_or] at unquoted plain
    rw [List.cons_append, longBody_cons (Ne.symm plain.1) (Ne.symm unquoted.1),
      hyp unquoted.2 plain.2, Option.map_map]
    rfl

end OptionProtocol.Expression
