import OptionProtocol.Proofs.Handler.Overwriting

/-! What a run that stops leaves behind. Options are assigned one after the other, each from what
those before it left of the tokens that reach its level, so a run that stops at an option has done
its work on all options before that one and has not come to any other. -/

set_option autoImplicit false

namespace OptionProtocol

open TokenSequence

section

variable (reader : ObjectReader)

/-- The sequence as the parses of some options leave it, one after the other. -/
def behind (specs : List OptionSpec) (s : TokenSequence) : TokenSequence :=
  specs.foldl (fun s spec => (spec.parse reader s).2) s

/-- The tokens that reach the level above some levels. -/
def reaching (levels : List Level) (tokens : List String) : List String :=
  levels.foldl (fun tokens level => (behind reader level.options (ofTexts tokens)).remaining) tokens

/-- The sequence that the option at a place is parsed from: that of the tokens which reach its
level, after the options before it. -/
def sequenceAt (levels : List Level) (tokens : List String) (height place : Nat) : TokenSequence :=
  let options := (levels[height]?.map Level.options).getD []
  behind reader (options.take place) (ofTexts (reaching reader (levels.take height) tokens))

/-- The parse of the option gives a value, which is the default where no token left announces the
option, and the option holds it afterwards unless the constraint turned it down. -/
structure OptionSpec.Takes (spec : OptionSpec) (s : TokenSequence) (before after : Option Value)
    (new : Value) : Prop where
  read : (spec.parse reader s).1.result = .ok new
  default : spec.kind ≠ .flag → announce spec.flag ∉ s.remaining →
    if spec.isArray then copyDefault spec.default = .ok new else new = spec.default
  allowed : spec.Allows new → after = some new
  refused : ¬spec.Allows new → after = before

/-- The run of an assignment stopped at the option at a place: the options before it took what their
parses gave them, and it is unchanged itself like all that come after it. -/
structure StopsAt (levels : List Level) (before after : List (List Value)) (tokens : List String)
    (fault : OptionFault) (height place : Nat) : Prop where
  stops : ∃ spec, cell? (levels.map Level.options) height place = some spec ∧
    spec.Stops (spec.parse reader (sequenceAt reader levels tokens height place)).1.result fault
  earlier : ∀ lower other spec, lower < height ∨ lower = height ∧ other < place →
    cell? (levels.map Level.options) lower other = some spec →
    ∃ new, spec.Takes reader (sequenceAt reader levels tokens lower other)
      (cell? before lower other) (cell? after lower other) new
  later : ∀ upper other, height < upper ∨ upper = height ∧ place ≤ other →
    cell? after upper other = cell? before upper other

end

section

variable {reader : ObjectReader}

namespace OptionSpec

variable {spec : OptionSpec} {s : TokenSequence} {new : Value}

theorem default_of_absent (read : (spec.parse reader s).1.result = .ok new)
    (valued : spec.kind ≠ .flag) (absent : announce spec.flag ∉ s.remaining) :
    if spec.isArray then copyDefault spec.default = .ok new else new = spec.default := by
  cases array : spec.isArray with
  | false =>
    rw [parse_absent reader array valued (takePair_eq_absent_iff.mpr absent)] at read
    simpa using (Except.ok.inj read).symm
  | true =>
    obtain ⟨items, collected, ⟨rfl, copied⟩ | ⟨some, rfl⟩⟩ := parse_array_ok array valued read
    · simpa using copied
    · rw [collect_absent absent] at collected
      exact absurd (Except.ok.inj collected).symm some

theorem Keeps.takes {old kept : Value} (read : (spec.parse reader s).1.result = .ok new)
    (keeps : spec.Keeps old new kept) : spec.Takes reader s (some old) (some kept) new where
  read := read
  default := default_of_absent read
  allowed allowed := congrArg some (keeps.eq_new (allows_iff.mp allowed))
  refused refused := by
    cases keeps with
    | new accepted => exact absurd (allows_iff.mpr accepted) refused
    | old => rfl

end OptionSpec

/-- A row that is assigned to its end has taken what was parsed for each of its options. -/
theorem assignRow_takes {specs : List OptionSpec} {row : List Value} {s : TokenSequence}
    (filled : row.length = specs.length) (done : (assignRow reader specs row s).fault = none) :
    (assignRow reader specs row s).tokens = behind reader specs s ∧
      ∀ (place : Nat) (spec : OptionSpec), specs[place]? = some spec →
        ∃ new, spec.Takes reader (behind reader (specs.take place) s) row[place]?
          (assignRow reader specs row s).row[place]? new := by
  induction specs generalizing row s with
  | nil => exact ⟨rfl, by simp⟩
  | cons first specs ih =>
    obtain ⟨old, row, rfl⟩ := List.exists_cons_of_length_eq_add_one filled
    obtain ⟨_, _, run⟩ | ⟨new, kept, _, read, keeps, run⟩ :=
      assignRow_cons_cases reader first specs old row s
    · simp [run] at done
    · rw [run] at done ⊢
      obtain ⟨tokens, takes⟩ := ih (Nat.succ.inj filled) done
      refine ⟨tokens, fun place spec option => ?_⟩
      cases place with
      | zero =>
        obtain rfl := Option.some.inj option
        exact ⟨new, keeps.takes read⟩
      | succ place => exact takes place spec option

theorem assignRow_stops {specs : List OptionSpec} {row : List Value} {s : TokenSequence}
    {fault : OptionFault} (filled : row.length = specs.length)
    (failed : (assignRow reader specs row s).fault = some fault) :
    ∃ (place : Nat) (spec : OptionSpec), specs[place]? = some spec ∧
      spec.Stops (spec.parse reader (behind reader (specs.take place) s)).1.result fault ∧
      (∀ (other : Nat) (spec : OptionSpec), other < place → specs[other]? = some spec →
        ∃ new, spec.Takes reader (behind reader (specs.take other) s) row[other]?
          (assignRow reader specs row s).row[other]? new) ∧
      ∀ other : Nat, place ≤ other → (assignRow reader specs row s).row[other]? = row[other]? := by
  induction specs generalizing row s with
  | nil => cases row <;> cases failed
  | cons first specs ih =>
    obtain ⟨old, row, rfl⟩ := List.exists_cons_of_length_eq_add_one filled
    obtain ⟨other, stops, run⟩ | ⟨new, kept, _, read, keeps, run⟩ :=
      assignRow_cons_cases reader first specs old row s
    · rw [run] at failed ⊢
      obtain rfl := Option.some.inj failed
      exact ⟨0, first, rfl, stops, fun _ _ inside => absurd inside (Nat.not_lt_zero _),
        fun _ _ => rfl⟩
    · rw [run] at failed ⊢
      obtain ⟨place, spec, option, stops, earlier, later⟩ := ih (Nat.succ.inj filled) failed
      refine ⟨place + 1, spec, option, stops, fun other another before found => ?_,
        fun other after => ?_⟩
      · cases other with
        | zero =>
          obtain rfl := Option.some.inj found
          exact ⟨new, keeps.takes read⟩
        | succ other => exact earlier other another (Nat.lt_of_succ_lt_succ before) found
      · cases other with
        | zero => cases after
        | succ other => exact later other (Nat.le_of_succ_le_succ after)

/-- Levels whose assignment fails stop at an option of one of them. -/
theorem assignLevels_stops {levels : List Level} {rows : List (List Value)} {tokens : List String}
    {fault : OptionFault} (filled : Filled levels rows)
    (failed : (assignLevels reader levels rows tokens).leftover = .error fault) :
    ∃ height place, StopsAt reader levels rows (assignLevels reader levels rows tokens).rows tokens
      fault height place := by
  induction filled generalizing tokens with
  | nil => cases failed
  | @cons level row levels rows here above ih =>
    unfold assignLevels at failed ⊢
    cases stopped : (assignRow reader level.options row (ofTexts tokens)).fault with
    | some other =>
      simp only [stopped] at failed ⊢
      obtain rfl := Except.error.inj failed
      obtain ⟨place, spec, option, stops, earlier, later⟩ := assignRow_stops here stopped
      refine ⟨0, place, ⟨spec, option, stops⟩, fun lower other spec before found => ?_,
        fun upper other after => ?_⟩
      · obtain low | ⟨rfl, before⟩ := before
        · cases low
        · exact earlier other spec before found
      · cases upper with
        | zero => exact later other (after.elim (absurd · (Nat.lt_irrefl 0)) And.right)
        | succ upper => rfl
    | none =>
      simp only [stopped] at failed ⊢
      obtain ⟨left, takes⟩ := assignRow_takes here stopped
      obtain ⟨height, place, stops, earlier, later⟩ := ih failed
      rw [left] at stops earlier later
      rw [left]
      refine ⟨height + 1, place, stops, fun lower other spec before found => ?_,
        fun upper other after => ?_⟩
      · cases lower with
        | zero => exact takes other spec found
        | succ lower =>
          exact earlier lower other spec (before.imp Nat.lt_of_succ_lt_succ
            fun same => ⟨Nat.succ.inj same.1, same.2⟩) found
      · cases upper with
        | zero => simp at after
        | succ upper =>
          exact later upper other (after.imp Nat.lt_of_succ_lt_succ
            fun same => ⟨Nat.succ.inj same.1, same.2⟩)

end

namespace Handler

/-- A handler that cannot take some tokens stops at one of its options. What the tokens give the
options before that one, on its level and on those below, they have; that option, those after it on
its level and those of the levels above hold what they held. -/
theorem setOptions_stops {handler : Handler} (complete : handler.Complete) {tokens : List String}
    {fault : OptionFault} (failed : (handler.setOptions tokens).1.result = .error fault) :
    ∃ height place, StopsAt readObject handler.id.levels handler.rows
      (handler.setOptions tokens).2.rows tokens fault height place :=
  assignLevels_stops complete failed

-- The seed of the level below is turned down and the label read, before the weights are no numbers.
theorem setOptions_stops_weights :
    (fresh .childLearner).Complete ∧
      ((fresh .childLearner).setOptions
          ["-seed", "", "-label", "-v", "-weights", "light"]).1.result =
        .error (.malformed (some "weights") (some "light") .unreadable) ∧
      ∃ height place, StopsAt readObject ClassId.childLearner.levels
        ClassId.childLearner.defaultRows
        ((fresh .childLearner).setOptions ["-seed", "", "-label", "-v", "-weights", "light"]).2.rows
        ["-seed", "", "-label", "-v", "-weights", "light"]
        (.malformed (some "weights") (some "light") .unreadable) height place := by
  have complete := fresh_complete .childLearner
  have failed : ((fresh .childLearner).setOptions
      ["-seed", "", "-label", "-v", "-weights", "light"]).1.result =
        .error (.malformed (some "weights") (some "light") .unreadable) := by
    with_unfolding_all rfl
  exact ⟨complete, failed, setOptions_stops complete failed⟩

end Handler

end OptionProtocol
