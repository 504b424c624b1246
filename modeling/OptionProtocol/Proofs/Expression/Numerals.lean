import OptionProtocol.Expression.Numeral

/-! Numerals at the end of a bracket. What is left of a text behind its numeral is its end, and a
closing bracket that follows the text takes no part in reading it. -/

set_option autoImplicit false

namespace OptionProtocol.Expression

variable {s rest : List Char} {isDigit : Char → Bool}
  {read next : List Char → Option (List Char)}

/-- A part of a text is read off its front, and is the same before a closing bracket. -/
structure ReadsFront (read : List Char → Option (List Char)) : Prop where
  suffix : ∀ s rest, read s = some rest → rest <:+ s
  close : ∀ s, read (s ++ [')']) = (read s).map (· ++ [')'])

theorem ReadsFront.bind (first : ReadsFront read) (second : ReadsFront next) :
    ReadsFront fun s => (read s).bind next where
  suffix s rest both := by
    obtain ⟨middle, before, behind⟩ := Option.bind_eq_some_iff.mp both
    exact (second.suffix middle rest behind).trans (first.suffix s middle before)
  close s := by
    rw [first.close, Option.bind_map, Option.map_bind]
    exact congrArg (read s).bind (funext second.close)

/-! Words behind a numeral. -/

/-- A word that does not have the character is no longer found because of it. -/
theorem isPrefixOf_concat {word : List Char} {c : Char} (other : c ∉ word) (s : List Char) :
    word.isPrefixOf (s ++ [c]) = word.isPrefixOf s := by
  rw [Bool.eq_iff_iff, List.isPrefixOf_iff_prefix, List.isPrefixOf_iff_prefix,
    List.prefix_concat_iff]
  constructor
  · rintro (rfl | inside)
    · simp at other
    · exact inside
  · exact .inr

theorem beginsWithWord_close {word : List Char} (letters : ')' ∉ word) (s : List Char) :
    beginsWithWord word (s ++ [')']) = beginsWithWord word s := by
  rw [beginsWithWord, beginsWithWord, isPrefixOf_concat letters]
  cases starts : word.isPrefixOf s with
  | false => rfl
  | true =>
    obtain ⟨after, rfl⟩ := List.isPrefixOf_iff_prefix.mp starts
    rw [List.append_assoc, List.drop_left, List.drop_left]
    cases after <;> rfl

theorem any_beginsWithWord_close (s : List Char) :
    (["and", "else", "for", "or", "not"].any fun word =>
        beginsWithWord word.toList (s ++ [')'])) =
      ["and", "else", "for", "or", "not"].any fun word => beginsWithWord word.toList s := by
  rw [Bool.eq_iff_iff, List.any_eq_true, List.any_eq_true]
  refine exists_congr fun word => and_congr_right fun member => ?_
  rw [beginsWithWord_close]
  revert word
  decide

theorem mayEnd_cons {c : Char} (other : c ≠ 'i') (rest : List Char) :
    mayEnd (c :: rest) = (!isWordChar c ||
      ["and", "else", "for", "or", "not"].any fun word =>
        beginsWithWord word.toList (c :: rest)) := by
  simp [mayEnd, other]

theorem mayEnd_close (s : List Char) : mayEnd (s ++ [')']) = mayEnd s := by
  cases s with
  | nil => rfl
  | cons c rest =>
    by_cases same : c = 'i'
    · subst same
      cases rest with
      | nil => decide
      | cons d rest => rfl
    · have words := any_beginsWithWord_close (c :: rest)
      rw [List.cons_append] at words ⊢
      rw [mayEnd_cons same, mayEnd_cons same, words]

theorem readsFront_ending : ReadsFront ending where
  suffix s rest ends := by
    obtain ⟨-, same⟩ := Option.ite_none_right_eq_some.mp ends
    exact Option.some.inj same ▸ List.suffix_rfl
  close s := by
    rw [ending, ending, mayEnd_close]
    split <;> rfl

/-! Digits. -/

theorem moreDigits_cons {c : Char} (other : c ≠ '_') (rest : List Char) :
    moreDigits isDigit (c :: rest) =
      if isDigit c then moreDigits isDigit rest else some (c :: rest) := by
  rw [moreDigits] <;> grind

theorem readsFront_moreDigits (bracket : isDigit ')' = false) :
    ReadsFront (moreDigits isDigit) where
  suffix s rest digits := by
    fun_induction moreDigits isDigit s <;> grind [List.suffix_cons_iff]
  close s := by
    induction s using moreDigits.induct isDigit with
    | case1 => simp [moreDigits, bracket]
    | case2 c rest digit ih => simp [moreDigits, digit, ih]
    | case3 c rest other => simp [moreDigits, other]
    | case4 => simp [moreDigits, bracket]
    | case5 c rest _ _ digit ih =>
      have other : c ≠ '_' := by grind [cases List]
      simp [moreDigits_cons other, digit, ih]
    | case6 c rest _ _ digit =>
      have other : c ≠ '_' := by grind [cases List]
      simp [moreDigits_cons other, digit]

theorem readsFront_decimalDigits : ReadsFront (moreDigits Char.isDigit) :=
  readsFront_moreDigits rfl

/-- What is read behind a first character of a kind, and what is read of other texts. -/
theorem ReadsFront.cons (taken : Char → Prop) [DecidablePred taken] (bracket : ¬taken ')')
    (behind : ReadsFront read) (other : ReadsFront next) (bare : next [] = some []) :
    ReadsFront fun s => match s with
      | c :: rest => if taken c then read rest else next s
      | [] => some [] where
  suffix s rest reads := by
    cases s with
    | nil => exact Option.some.inj reads ▸ List.suffix_rfl
    | cons c more =>
      simp only at reads
      split at reads
      · exact (behind.suffix _ _ reads).trans (List.suffix_cons c more)
      · exact other.suffix _ _ reads
  close s := by
    cases s with
    | nil => simpa [bracket, bare] using other.close []
    | cons c more =>
      have both := other.close (c :: more)
      simp only [List.cons_append] at both ⊢
      split
      · exact behind.close more
      · exact both

theorem readsFront_imaginaryPart : ReadsFront imaginaryPart :=
  ReadsFront.cons (fun c => c = 'j' ∨ c = 'J') (by decide) readsFront_ending
    readsFront_ending rfl

theorem readsFront_imaginary : ReadsFront fun s => (moreDigits Char.isDigit s).bind imaginaryPart :=
  readsFront_decimalDigits.bind readsFront_imaginaryPart

theorem readsFront_exponentPart : ReadsFront exponentPart where
  suffix s rest reads := by
    cases s with
    | nil => exact Option.some.inj reads ▸ List.suffix_rfl
    | cons mark after =>
      have ends := readsFront_ending.suffix (mark :: after) rest
      simp only [exponentPart] at reads
      split at reads
      · match after with
        | [] => exact ends reads
        | [c] =>
          simp only at reads
          split at reads
          · exact Option.some.inj reads ▸ List.nil_suffix
          · split at reads
            · cases reads
            · exact ends reads
        | sign :: c :: more =>
          have digits (s : List Char) := readsFront_imaginary.suffix s rest
          simp only at reads
          split at reads
          · split at reads
            · exact (digits more reads).trans ⟨[mark, sign, c], rfl⟩
            · cases reads
          · split at reads
            · exact (digits (c :: more) reads).trans ⟨[mark, sign], rfl⟩
            · exact ends reads
      · exact readsFront_imaginaryPart.suffix _ _ reads
  close s := by
    cases s with
    | nil => rfl
    | cons mark rest =>
      have ends := readsFront_ending.close (mark :: rest)
      have imaginary := readsFront_imaginaryPart.close (mark :: rest)
      simp only [List.cons_append] at ends imaginary ⊢
      simp only [exponentPart]
      split
      · match rest with
        | [] => exact ends
        | [c] =>
          simp only [List.cons_append, List.nil_append] at ends ⊢
          split
          · rename_i sign
            obtain rfl | rfl := sign <;> rfl
          · split
            · rfl
            · exact ends
        | sign :: c :: more =>
          simp only [List.cons_append] at ends ⊢
          split
          · split
            · exact readsFront_imaginary.close more
            · rfl
          · split
            · exact readsFront_imaginary.close (c :: more)
            · exact ends
      · exact imaginary

theorem readsFront_fractionPart : ReadsFront fractionPart :=
  ReadsFront.cons (fun c => c.isDigit = true) (by decide)
    (readsFront_decimalDigits.bind readsFront_exponentPart) readsFront_exponentPart rfl

/-! Integers. -/

/-- Digits of another base do not end before a digit that is none of them. -/
theorem readsFront_radixEnd : ReadsFront fun s =>
    if (s.head?.map Char.isDigit).getD false then none else ending s where
  suffix s rest ends := by
    split at ends
    · cases ends
    · exact readsFront_ending.suffix s rest ends
  close s := by
    have ends := readsFront_ending.close s
    cases s with
    | nil => rfl
    | cons c more =>
      rw [List.cons_append] at ends ⊢
      by_cases digit : c.isDigit = true <;> simp [digit, ends]

theorem readsFront_radixRun (bracket : isDigit ')' = false) : ReadsFront fun s =>
    match s with
    | c :: rest =>
        if isDigit c then
          (moreDigits isDigit rest).bind fun rest =>
            if (rest.head?.map Char.isDigit).getD false then none else ending rest
        else none
    | [] => none where
  suffix s rest reads := by
    cases s with
    | nil => cases reads
    | cons c more =>
      simp only at reads
      split at reads
      · exact (((readsFront_moreDigits bracket).bind readsFront_radixEnd).suffix _ _ reads).trans
          (List.suffix_cons c more)
      · cases reads
  close s := by
    cases s with
    | nil => simp [bracket]
    | cons c more =>
      simp only [List.cons_append]
      split
      · exact ((readsFront_moreDigits bracket).bind readsFront_radixEnd).close more
      · rfl

theorem readsFront_radixDigits (bracket : isDigit ')' = false) :
    ReadsFront (radixDigits isDigit) where
  suffix s rest reads := by
    have run := (readsFront_radixRun bracket).suffix
    unfold radixDigits at reads
    split at reads
    rename_i more
    · exact (run more rest reads).trans (List.suffix_cons '_' more)
    · exact run s rest reads
  close s := by
    have run := (readsFront_radixRun bracket).close
    cases s with
    | nil => exact run []
    | cons c more =>
      by_cases mark : c = '_'
      · subst mark
        exact run more
      · have whole := run (c :: more)
        simpa [radixDigits, mark] using whole

theorem readsFront_leadingZeros : ReadsFront leadingZeros where
  suffix s rest zeros := by
    fun_induction leadingZeros s <;> grind [List.suffix_cons_iff]
  close s := by
    induction s using leadingZeros.induct with
    | case1 rest ih => simpa [leadingZeros] using ih
    | case2 c rest other digit => simp [leadingZeros, other, digit]
    | case3 c rest other digit => simp [leadingZeros, other, digit]
    | case4 => simp [leadingZeros]
    | case5 rest ih => simpa [leadingZeros] using ih
    | case6 s single mark zero =>
      cases s with
      | nil => rfl
      | cons c more =>
        have first : c ≠ '0' := fun same => zero more (same ▸ rfl)
        have other : c ≠ '_' := by
          rintro rfl
          cases more with
          | nil => exact mark rfl
          | cons d more => exact single d more rfl
        simp [leadingZeros, first, other]

section

variable {exponent integer longerExponent longerInteger : List Char → Option (List Char)}

theorem behindDigits_suffix (after : ∀ s rest, exponent s = some rest → rest <:+ s)
    (end_ : ∀ s rest, integer s = some rest → rest <:+ s)
    (reads : behindDigits exponent integer s = some rest) : rest <:+ s := by
  unfold behindDigits at reads
  split at reads
  · rename_i fraction
    exact (readsFront_fractionPart.suffix _ _ reads).trans (List.suffix_cons '.' fraction)
  · split at reads
    · exact after _ _ reads
    · split at reads
      · exact readsFront_imaginaryPart.suffix _ _ reads
      · exact end_ _ _ reads
  · exact end_ _ _ reads

theorem behindDigits_close
    (after : ∀ s, longerExponent (s ++ [')']) = (exponent s).map (· ++ [')']))
    (end_ : ∀ s, longerInteger (s ++ [')']) = (integer s).map (· ++ [')'])) (s : List Char) :
    behindDigits longerExponent longerInteger (s ++ [')']) =
      (behindDigits exponent integer s).map (· ++ [')']) := by
  cases s with
  | nil => exact end_ []
  | cons mark rest =>
    by_cases dot : mark = '.'
    · subst dot
      exact readsFront_fractionPart.close rest
    · have exponents := after (mark :: rest)
      have integers := end_ (mark :: rest)
      have imaginary := readsFront_imaginaryPart.close (mark :: rest)
      rw [List.cons_append] at exponents integers imaginary ⊢
      simp only [behindDigits]
      split
      · exact exponents
      · split
        · exact imaginary
        · exact integers

end

theorem readsFront_zerosEnd (nonzero : Bool) : ReadsFront (zerosEnd nonzero) := by
  cases nonzero with
  | false => exact readsFront_ending
  | true => exact ⟨fun _ _ reads => absurd reads (by simp [zerosEnd]), fun _ => rfl⟩

theorem readsFront_behindZeros : ReadsFront behindZeros where
  suffix s rest reads := by
    obtain ⟨middle, digits, behind⟩ := Option.bind_eq_some_iff.mp reads
    have front : middle <:+ s := by
      split at digits
      · exact readsFront_decimalDigits.suffix _ _ digits
      · exact Option.some.inj digits ▸ List.suffix_rfl
    exact (behindDigits_suffix readsFront_exponentPart.suffix (readsFront_zerosEnd _).suffix
      behind).trans front
  close s := by
    have first : (((s ++ [')']).head?.map Char.isDigit).getD false) =
        (s.head?.map Char.isDigit).getD false := by
      cases s <;> rfl
    have behind := behindDigits_close readsFront_exponentPart.close
      (readsFront_zerosEnd ((s.head?.map Char.isDigit).getD false)).close
    unfold behindZeros
    simp only [first]
    split
    · rw [readsFront_decimalDigits.close, Option.bind_map, Option.map_bind]
      exact congrArg _ (funext behind)
    · exact behind s

theorem integerEnd_suffix {after : List Char} (short : integerEnd s rest = some after) :
    after = rest := by
  obtain ⟨-, same⟩ := Option.ite_none_right_eq_some.mp short
  exact (Option.some.inj same).symm

theorem integerEnd_close (s rest : List Char) :
    integerEnd (s ++ [')']) (rest ++ [')']) = (integerEnd s rest).map (· ++ [')']) := by
  have digits : (s ++ [')']).take ((s ++ [')']).length - (rest ++ [')']).length) =
      s.take (s.length - rest.length) := by
    rw [List.length_append, List.length_append, Nat.add_sub_add_right,
      List.take_append_of_le_length (Nat.sub_le _ _)]
  simp only [integerEnd, digits]
  split <;> rfl

theorem decimalExponent_suffix {after : List Char} (reads : decimalExponent s rest = some after) :
    after <:+ rest := by
  obtain ⟨taken, exponent, reads⟩ := Option.bind_eq_some_iff.mp reads
  split at reads
  · exact integerEnd_suffix reads ▸ List.suffix_rfl
  · exact Option.some.inj reads ▸ readsFront_exponentPart.suffix _ _ exponent

theorem decimalExponent_close (s rest : List Char) :
    decimalExponent (s ++ [')']) (rest ++ [')']) = (decimalExponent s rest).map (· ++ [')']) := by
  unfold decimalExponent
  rw [readsFront_exponentPart.close, Option.bind_map, Option.map_bind]
  refine congrArg _ (funext fun after => ?_)
  simp only [Function.comp_apply, List.length_append, Nat.add_right_cancel_iff]
  split
  · exact integerEnd_close s rest
  · rfl

theorem readsFront_decimalNumeral : ReadsFront decimalNumeral where
  suffix s rest reads := by
    obtain ⟨middle, digits, behind⟩ := Option.bind_eq_some_iff.mp reads
    refine (behindDigits_suffix (fun _ _ => decimalExponent_suffix) ?_ behind).trans
      (readsFront_decimalDigits.suffix _ _ digits)
    intro whole rest reads
    obtain ⟨after, ends, reads⟩ := Option.bind_eq_some_iff.mp reads
    exact integerEnd_suffix reads ▸ readsFront_ending.suffix _ _ ends
  close s := by
    unfold decimalNumeral
    rw [readsFront_decimalDigits.close, Option.bind_map, Option.map_bind]
    refine congrArg _ (funext (behindDigits_close (decimalExponent_close s) fun rest => ?_))
    rw [readsFront_ending.close, Option.bind_map, Option.map_bind]
    exact congrArg _ (funext (integerEnd_close s))

/-! Numerals. -/

theorem readsFront_zeroNumeral : ReadsFront zeroNumeral where
  suffix s rest reads := by
    have radix {isDigit : Char → Bool} (bracket : isDigit ')' = false) (c : Char) {more : List Char}
        (reads : radixDigits isDigit more = some rest) : rest <:+ c :: more :=
      ((readsFront_radixDigits bracket).suffix _ _ reads).trans (List.suffix_cons c more)
    unfold zeroNumeral at reads
    split at reads
    · split at reads
      · exact radix rfl _ reads
      · split at reads
        · exact radix rfl _ reads
        · split at reads
          · exact radix rfl _ reads
          · exact (readsFront_leadingZeros.bind readsFront_behindZeros).suffix _ _ reads
    · exact Option.some.inj reads ▸ List.suffix_rfl
  close s := by
    cases s with
    | nil => rfl
    | cons c more =>
      have both := (readsFront_leadingZeros.bind readsFront_behindZeros).close (c :: more)
      rw [List.cons_append] at both ⊢
      simp only [zeroNumeral]
      split
      · exact (readsFront_radixDigits rfl).close more
      · split
        · exact (readsFront_radixDigits rfl).close more
        · split
          · exact (readsFront_radixDigits rfl).close more
          · exact both

/-- A numeral takes its first character at least. -/
theorem numeral_suffix {c : Char} (reads : numeral (c :: s) = some rest) : rest <:+ s := by
  unfold numeral at reads
  split at reads
  · rename_i same
    exact (List.cons.inj same).2 ▸ readsFront_zeroNumeral.suffix _ _ reads
  · rename_i same
    exact (List.cons.inj same).2 ▸ readsFront_fractionPart.suffix _ _ reads
  · rename_i same
    exact (List.cons.inj same).2 ▸ readsFront_decimalNumeral.suffix _ _ reads
  · cases reads

theorem numeral_close (c : Char) (s : List Char) :
    numeral (c :: (s ++ [')'])) = (numeral (c :: s)).map (· ++ [')']) := by
  by_cases zero : c = '0'
  · subst zero
    exact readsFront_zeroNumeral.close s
  · by_cases dot : c = '.'
    · subst dot
      exact readsFront_fractionPart.close s
    · simpa [numeral, zero, dot] using readsFront_decimalNumeral.close s

end OptionProtocol.Expression
