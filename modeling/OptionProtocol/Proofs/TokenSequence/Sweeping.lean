import OptionProtocol.Proofs.TokenSequence.Conservation

/-! Reading all occurrences of an option in one pass. The option is looked for again and again from
the first token on, while the marks change. Nothing that it might take is ever left behind, so one
pass from left to right comes to the same: it stops at each announcement left, takes the token
behind it and goes on behind both. -/

set_option autoImplicit false

namespace OptionProtocol.TokenSequence

/-- What one pass comes to: the items or what stopped it, and the places of the announcements whose
values it took. -/
structure Sweep where
  items : Attempt (List Value)
  taken : List Nat := []

namespace Sweep

/-- The same pass when it took the value of an announcement before it came here. -/
def after (place : Nat) (value : Value) (earlier : List Rejection) (sweep : Sweep) : Sweep where
  items := {
    result := sweep.items.result.map (value :: ·)
    rejected := earlier ++ sweep.items.rejected }
  taken := place :: sweep.taken

/-- The places of the announcements and of the values behind them. -/
def places (sweep : Sweep) : List Nat := sweep.taken.flatMap fun place => [place, place + 1]

end Sweep

/-- One pass over the tokens from a place on. The marks are those that were there before it. -/
def sweep (decodeItem : String → Attempt Value) (flag : String) (place : Nat) :
    List Token → Sweep
  | [] => { items := .done [] }
  | token :: rest =>
      if Announces flag token then
        match rest with
        | [] => { items := .fail (noValue flag) }
        | next :: rest =>
            if next.consumed then { items := .fail (noValue flag) }
            else
              let item := decodeItem next.text
              match item.result with
              | .error fault => { items := { item with result := .error fault }, taken := [place] }
              | .ok value =>
                  (sweep decodeItem flag (place + 2) rest).after place value item.rejected
      else sweep decodeItem flag (place + 1) rest

/-- The values of all occurrences of an option as one pass finds them, or its default when it does
not occur. Just the pairs that the pass took are marked. -/
def sweepArray (readObject : ObjectReader) (s : TokenSequence) (flag : String) (default : Value)
    (kind : Kind) (base : Option ClassId) : Attempt Value × TokenSequence :=
  if kind = .flag then (.fail .flagArray, s)
  else
    let sweep := sweep (fun raw => decode readObject raw kind (some flag) base) flag 0 s.tokens
    ({ sweep.items with result := listOf default sweep.items.result },
      ⟨markAll s.tokens sweep.places⟩)

variable {decodeItem : String → Attempt Value} {flag : String} {front : List Token}

theorem mark_append (front : List Token) (token : Token) (rest : List Token) :
    mark (front ++ token :: rest) front.length = front ++ token.taken :: rest := by
  induction front with
  | nil => rfl
  | cons first front ih => exact congrArg (first :: ·) ih

theorem markAll_pair (front : List Token) (token next : Token) (rest : List Token)
    (places : List Nat) :
    markAll (front ++ token :: next :: rest) (front.length :: (front.length + 1) :: places) =
      markAll (front ++ token.taken :: next.taken :: rest) places := by
  change markAll (mark (mark (front ++ token :: next :: rest) front.length) (front.length + 1))
    places = _
  have second := mark_append (front ++ [token.taken]) next rest
  simp only [List.length_append, List.append_assoc, List.cons_append, List.nil_append,
    List.length_singleton] at second
  rw [mark_append, second]

/-- Looking from the first token on comes to the same as going on from a place, as long as nothing
in front of the place announces the option. -/
theorem collect_of_passed (passed : Passed flag front) (rest : List Token) :
    collect decodeItem flag (front ++ rest) =
      ((sweep decodeItem flag front.length rest).items,
        markAll (front ++ rest) (sweep decodeItem flag front.length rest).places) := by
  generalize length : front.length = place
  fun_induction sweep decodeItem flag place rest generalizing front with
  | case1 place =>
    have found : takePair flag (front ++ []) = .absent := by
      rw [passed.takePair, takePair, Taken.behind_absent]
    rw [collect_absent (takePair_eq_absent_iff.mp found)]
    rfl
  | case2 place token announced =>
    rw [collect_valueless (passed.takePair_valueless announced (by simp))]
    rfl
  | case3 place token announced next rest consumed =>
    rw [collect_valueless (passed.takePair_valueless announced (by simp [consumed]))]
    rfl
  | case4 place token announced next rest free item fault =>
    rename_i failed
    subst length
    rw [collect_value (passed.takePair_value announced free), failed]
    exact congrArg (_, ·) (markAll_pair front token next rest []).symm
  | case5 place token announced next rest free item value read =>
    rename_i ih
    subst length
    rw [collect_value (passed.takePair_value announced free), read]
    have grown : Passed flag ((front ++ [token.taken]) ++ [next.taken]) :=
      (passed.append (announces_taken token)).append (announces_taken next)
    have later := ih grown (by simp)
    simp only [List.append_assoc, List.cons_append, List.nil_append] at later
    rw [later]
    exact congrArg (_, ·) (markAll_pair front token next rest _).symm
  | case6 place token rest passing ih =>
    have later := ih (passed.append (Bool.eq_false_iff.mpr passing)) (by simp [length])
    rwa [List.append_assoc] at later

/-- Reading all occurrences of an option comes to the same as one pass from left to right: the same
items or the same fault, and the same marks. -/
theorem parseArray_eq_sweepArray (readObject : ObjectReader) (s : TokenSequence) (flag : String)
    (default : Value) (kind : Kind) (base : Option ClassId) :
    s.parseArray readObject flag default kind base =
      s.sweepArray readObject flag default kind base := by
  unfold sweepArray
  split
  · rename_i bare
    rw [parseArray, if_pos bare]
  · rename_i valued
    have silent : Passed flag [] := by simp [Passed]
    have same (decodeItem : String → Attempt Value) : collect decodeItem flag s.tokens =
        ((sweep decodeItem flag 0 s.tokens).items,
          markAll s.tokens (sweep decodeItem flag 0 s.tokens).places) :=
      collect_of_passed silent s.tokens
    rw [parseArray_eq_listOf readObject s flag default valued base, same]

end OptionProtocol.TokenSequence
