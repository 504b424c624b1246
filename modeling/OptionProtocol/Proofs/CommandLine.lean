import Mathlib.Algebra.Ring.Nat
import OptionProtocol.Handler.Fault
import OptionProtocol.Proofs.Except

/-! Splitting a command line gives back the tokens it was joined from. The invariant is the
state of `scan` behind a written token: outside quotes, with the whole token pending. -/

set_option autoImplicit false

namespace OptionProtocol.CommandLine

theorem scan_bare_plain {c : Char} (plain : isSpecial c = false) (pending : Pending)
    (rest : List Char) : scan .bare pending (c :: rest) = scan .bare (pending.push c) rest := by
  simp only [isSpecial, Bool.or_eq_false_iff, decide_eq_false_iff_not] at plain
  obtain ⟨⟨⟨⟨⟨separator, _⟩, _⟩, single⟩, double⟩, escape⟩ := plain
  cases rest <;> simp [scan, separator, single, double, escape]

theorem scan_bare_single (pending : Pending) (rest : List Char) :
    scan .bare pending ('\'' :: rest) = scan .single pending.begin rest := by
  cases rest <;> simp [scan]

theorem scan_bare_separator {c : Char} (separator : isSeparator c = true) (pending : Pending)
    (rest : List Char) :
    scan .bare pending (c :: rest) = (scan .bare none rest).map (pending.finish ++ ·) := by
  have others : c ≠ '\\' ∧ c ≠ '\'' ∧ c ≠ '"' := by
    refine ⟨?_, ?_, ?_⟩ <;> rintro rfl <;> exact absurd separator (by decide)
  cases rest <;> simp [scan, others, separator] <;> rfl

theorem scan_bare_append {chars : List Char} (plain : ∀ c ∈ chars, isSpecial c = false)
    (pending rest : List Char) :
    scan .bare (some pending) (chars ++ rest) =
      scan .bare (some (chars.reverse ++ pending)) rest := by
  induction chars generalizing pending with
  | nil => rfl
  | cons c chars ih =>
    have tail : ∀ d ∈ chars, isSpecial d = false := fun d member => plain d (by simp [member])
    rw [List.cons_append, scan_bare_plain (plain c (by simp))]
    simpa [Pending.push] using ih tail (c :: pending)

theorem isSpecial_of_isInert {c : Char} (inert : isInert c = true) : isSpecial c = false := by
  cases special : isSpecial c with
  | false => rfl
  | true =>
    simp only [isSpecial, isSeparator, Bool.or_eq_true, decide_eq_true_eq] at special
    obtain ((((((((rfl | rfl) | rfl) | rfl) | rfl) | rfl) | rfl) | rfl) | rfl) := special <;>
      exact absurd inert (by decide)

/-- The body of a token in single quotes: a quote leaves them, stands in double quotes and
opens them again. -/
def quotedBody (token : List Char) : List Char :=
  token.flatMap fun c => if c = '\'' then "'\"'\"'".toList else [c]

theorem scan_single_quotedBody (token pending rest : List Char) :
    scan .single (some pending) (quotedBody token ++ rest) =
      scan .single (some (token.reverse ++ pending)) rest := by
  induction token generalizing pending with
  | nil => rfl
  | cons c token ih =>
    have step : scan .single (some pending) (quotedBody (c :: token) ++ rest) =
        scan .single (some (c :: pending)) (quotedBody token ++ rest) := by
      by_cases quote : c = '\''
      · subst quote
        change scan .single (some pending) ('\'' :: '"' :: '\'' :: '"' :: '\'' ::
          (quotedBody token ++ rest)) = _
        simp [scan, scan_bare_single, Pending.push, Pending.begin]
      · simp [quotedBody, quote, scan, Pending.push]
    rw [step, ih, List.reverse_cons, List.append_assoc, List.singleton_append]

/-- Behind a written token the whole token is pending, however it was quoted. -/
theorem scan_quote (token rest : List Char) :
    scan .bare none (quote token ++ rest) = scan .bare (some token.reverse) rest := by
  -- A token that needs no quotes is read as it stands, whichever test has found that out.
  have bare (filled : token ≠ []) (plain : ∀ c ∈ token, isSpecial c = false) :
      scan .bare none (token ++ rest) = scan .bare (some token.reverse) rest := by
    obtain ⟨c, chars, rfl⟩ := List.exists_cons_of_ne_nil filled
    have tail : ∀ d ∈ chars, isSpecial d = false := fun d member => plain d (by simp [member])
    rw [List.cons_append, scan_bare_plain (plain c (by simp))]
    simpa [Pending.push] using scan_bare_append tail [c] rest
  unfold quote quoteSpecial
  split
  · rename_i unquoted
    exact bare unquoted.1 (by simpa using unquoted.2)
  · split
    · rename_i inert
      have each := List.all_eq_true.mp inert.2
      exact bare inert.1 fun c member => isSpecial_of_isInert (each c member)
    · change scan .bare none ('\'' :: (quotedBody token ++ ['\''] ++ rest)) = _
      rw [scan_bare_single, List.append_assoc]
      change scan .single (some []) (quotedBody token ++ '\'' :: rest) = _
      rw [scan_single_quotedBody, List.append_nil]
      simp [scan]

-- Only the first character matters below: it is that of the token, or a quote.
theorem quote_eq_or (token : List Char) :
    quote token = token ∨ ∃ more, quote token = '\'' :: more := by
  unfold quote quoteSpecial
  split
  · exact .inl rfl
  · split
    · exact .inl rfl
    · exact .inr ⟨_, rfl⟩

theorem toList_join_cons_cons (token next : String) (tokens : List String) :
    (join (token :: next :: tokens)).toList =
      quote token.toList ++ ' ' :: (join (next :: tokens)).toList := by
  simp [join, String.intercalate_cons_cons]

theorem toList_join_cons (token : String) (tokens : List String) :
    ∃ more, (join (token :: tokens)).toList = quote token.toList ++ more := by
  cases tokens with
  | nil => exact ⟨[], by simp [join]⟩
  | cons next tokens => exact ⟨_, toList_join_cons_cons token next tokens⟩

theorem scan_join (tokens : List String) :
    scan .bare none (join tokens).toList = .ok (tokens.map String.toList) := by
  match tokens with
  | [] => simp [join, scan, Pending.finish]
  | [token] =>
    have read := scan_quote token.toList []
    rw [List.append_nil] at read
    simp [join, read, scan, Pending.finish]
  | token :: next :: tokens =>
    rw [toList_join_cons_cons, scan_quote, scan_bare_separator (by decide),
      scan_join (next :: tokens)]
    simp [Pending.finish, Except.map]

theorem split_join (tokens : List String) : split (join tokens) = .ok tokens := by
  rw [split, scan_join]
  simp [Except.map, Function.comp_def]

/-- Splitting inverts joining, whatever characters the tokens are made of. -/
theorem tokens_join (items : List String) : tokens (join items) = .ok items := by
  rw [tokens, split_join]

theorem split_of_tokens {line : String} {items : List String} (read : tokens line = .ok items) :
    split line = .ok items := by
  unfold tokens at read
  split at read
  · rename_i found
    rw [found, Except.ok.inj read]
  · cases read

theorem join_injective : Function.Injective join := by
  intro first second same
  have read := split_join first
  rw [same, split_join second] at read
  exact (Except.ok.inj read).symm

@[simp] theorem Pending.length_push (pending : Pending) (c : Char) :
    ((pending.push c).getD []).length = (pending.getD []).length + 1 := by
  simp [Pending.push]

@[simp] theorem Pending.length_begin (pending : Pending) :
    (pending.begin.getD []).length = (pending.getD []).length := by
  simp [Pending.begin]

theorem Pending.length_finish (pending : Pending) :
    (pending.finish.map List.length).sum + pending.finish.length ≤
      (pending.getD []).length + 1 := by
  cases pending <;> simp [Pending.finish]

-- With a separator for each token but the last, the tokens collected are no longer than what
-- was read and pending; the induction is on the scan itself.
theorem length_scan {quoting : Quoting} {pending : Pending} {chars : List Char}
    {tokens : List (List Char)} (read : scan quoting pending chars = .ok tokens) :
    (tokens.map List.length).sum + tokens.length ≤
      chars.length + (pending.getD []).length + 1 := by
  fun_induction scan quoting pending chars generalizing tokens with
  | case1 pending =>
    cases read
    simpa using pending.length_finish
  | case2 | case6 | case10 => cases read
  | case14 pending c rest _ _ _ _ ih =>
    -- A separator ends what was pending, and its own length pays for the new token.
    cases inner : scan .bare none rest with
    | error fault => simp [inner, bind, Except.bind] at read
    | ok more =>
      have shorter := ih inner
      have finished := pending.length_finish
      simp only [inner, bind, Except.bind, pure, Except.pure, Except.ok.injEq] at read
      subst read
      simp only [List.map_append, List.sum_append, List.length_append, List.length_cons,
        Option.getD_none, List.length_nil] at shorter ⊢
      omega
  | _ =>
    rename_i ih
    have shorter := ih read
    simp only [List.length_cons, Pending.length_push, Pending.length_begin] at shorter ⊢
    omega

/-- A token behind the first one is shorter than the command line. -/
theorem length_lt_of_split {line name token : String} {tokens : List String}
    (read : split line = .ok (name :: tokens)) (member : token ∈ tokens) :
    token.length < line.length := by
  cases scanned : scan .bare none line.toList with
  | error fault => simp [split, scanned, Except.map] at read
  | ok pieces =>
    simp only [split, scanned, Except.map, Except.ok.injEq] at read
    obtain ⟨first, rest, rfl, rfl, rfl⟩ := List.map_eq_cons_iff.mp read
    obtain ⟨piece, inside, rfl⟩ := List.mem_map.mp member
    -- The first token and the separator behind it make the others strictly shorter.
    have bound := length_scan scanned
    have part : piece.length ≤ (rest.map List.length).sum := by
      rw [← List.length_flatten]
      exact (List.sublist_flatten_of_mem inside).length_le
    have filled : 0 < rest.length := List.length_pos_of_mem inside
    simp only [List.map_cons, List.sum_cons, List.length_cons, Option.getD_none,
      List.length_nil, String.length_toList] at bound
    rw [String.length_ofList]
    omega

theorem isBlank_of_isSeparator {c : Char} (separator : isSeparator c = true) :
    Text.isBlank c = true := by
  simp only [isSeparator, Bool.or_eq_true, decide_eq_true_eq] at separator
  obtain ((rfl | rfl) | rfl) | rfl := separator <;> decide

-- Quotes only stand in a token that was begun, so nothing but separators leads to no token.
theorem separators_of_scan_nil {quoting : Quoting} {pending : Pending} {chars : List Char}
    (begun : quoting ≠ .bare → pending ≠ none) (read : scan quoting pending chars = .ok []) :
    pending = none ∧ ∀ c ∈ chars, isSeparator c = true := by
  fun_induction scan quoting pending chars with
  | case1 pending =>
    cases pending with
    | none => exact ⟨rfl, by simp⟩
    | some token => simp [Pending.finish] at read
  | case2 | case6 | case10 => cases read
  | case14 pending c rest _ _ _ separator ih =>
    cases inner : scan .bare none rest with
    | error fault => simp [inner, bind, Except.bind] at read
    | ok more =>
      simp only [inner, bind, Except.bind, pure, Except.pure, Except.ok.injEq,
        List.append_eq_nil_iff] at read
      obtain ⟨finished, rfl⟩ := read
      refine ⟨by simpa [Pending.finish] using finished, ?_⟩
      exact List.forall_mem_cons.mpr ⟨separator, (ih (by simp) inner).2⟩
  | _ =>
    rename_i ih
    have empty := (ih (by simp_all [Pending.push, Pending.begin]) read).1
    simp_all [Pending.push, Pending.begin]

/-- A command line without tokens is blank. -/
theorem isAllBlank_of_tokens_nil {line : String} (read : tokens line = .ok []) :
    Text.isAllBlank line = true := by
  have scanned : scan .bare none line.toList = .ok [] := by
    obtain ⟨pieces, scanned, empty⟩ := map_eq_ok.mp (split_of_tokens read)
    rwa [List.map_eq_nil_iff.mp empty] at scanned
  have separators := (separators_of_scan_nil (by simp) scanned).2
  exact List.all_eq_true.mpr fun c member => isBlank_of_isSeparator (separators c member)

end OptionProtocol.CommandLine
