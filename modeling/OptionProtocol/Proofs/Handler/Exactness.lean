import OptionProtocol.Proofs.Handler.ObjectRoundTrip
import OptionProtocol.Proofs.Handler.Sound
import OptionProtocol.Proofs.Handler.Spelling

/-! Ambiguity does show: when a new object takes all the tokens of a valid handler and gives the
same tokens again, every option has read its own tokens and nothing else. An array or a flag that
finds more would give more, and that would stand where the next announcement stands. -/

set_option autoImplicit false

namespace OptionProtocol

open TokenSequence

-- Reading the command line of a handler gives an object of the same class that took its tokens.
theorem Handler.readObject_own {handler : Handler} (concrete : handler.id.IsConcrete)
    {line : String} (written : handler.commandLine = .ok line) {base : Option ClassId}
    {flag : Option String} {again : Value} (read : (readObject base flag line).result = .ok again) :
    ∃ options, handler.getOptions = .ok options ∧
      (assignLevels readObject handler.id.levels handler.id.defaultRows options).leftover = .ok [] ∧
      again = .object handler.id
        (assignLevels readObject handler.id.levels handler.id.defaultRows options).rows := by
  obtain ⟨options, own, rfl⟩ := commandLine_eq_ok.mp written
  obtain ⟨name, id, tokens, split, resolved, _, _, made⟩ := readObject_ok read
  rw [CommandLine.split_join] at split
  cases split
  rw [ClassId.resolve_name concrete] at resolved
  cases resolved
  obtain ⟨taken, value⟩ := configure_ok concrete.1 made
  exact ⟨options, own, taken, value⟩

/-- The command line of the handler is read as an object with the same command line. -/
def Handler.Recurs (handler : Handler) : Prop :=
  ∃ line base flag again, handler.commandLine = .ok line ∧
    (readObject base flag line).result = .ok again ∧ again.commandLine = .ok line

namespace OptionSpec

variable {spec : OptionSpec}

/-- Whatever is read from the text of a value is its twin. -/
theorem twin_of_decode {value again : Value} (kind : value.OfKind spec.base spec.kind)
    (floats : value.FloatsReadBack) (concrete : value.Inside (·.id.IsConcrete))
    {text : String} (encoded : value.encode spec.kind = .ok text)
    (decoded : (decode readObject text spec.kind (some spec.flag) spec.base).result = .ok again) :
    value.Twin again := by
  by_cases object : ∃ handler : Handler, value = handler.toValue
  · obtain ⟨handler, rfl⟩ := object
    rw [kind.eq_object] at encoded decoded
    have named : handler.id.IsConcrete := Value.Inside.here handler concrete
    obtain ⟨_, _, _, rfl⟩ := handler.readObject_own named encoded decoded
    exact .object handler.id handler.rows _
  · -- Where no object is read, the text is read as the value itself.
    have inner : value.Inside Handler.Restorable := by
      intro handler held
      rw [kind.parts_eq, List.mem_singleton] at held
      exact absurd ⟨handler, held.symm⟩ object
    obtain ⟨other, ⟨text', encoded', decoded'⟩, twin, _⟩ := rereads_of_ofKind kind floats inner
    rw [encoded] at encoded'
    cases encoded'
    rw [decoded] at decoded'
    cases decoded'
    exact twin

theorem twins_of_decoded {items agains : List Value}
    (kinds : ∀ item ∈ items, item.OfKind spec.base spec.kind)
    (floats : ∀ item ∈ items, item.FloatsReadBack)
    (concrete : ∀ item ∈ items, item.Inside (·.id.IsConcrete)) {texts : List String}
    (encoded : List.Forall₂ (fun item text => item.encode spec.kind = .ok text) items texts)
    (decoded : Decoded (fun raw => decode readObject raw spec.kind (some spec.flag) spec.base)
      texts agains) : List.Forall₂ Value.Twin items agains := by
  induction encoded generalizing agains with
  | nil =>
    cases decoded
    exact .nil
  | cons first _ ih =>
    obtain ⟨kind, kinds⟩ := List.forall_mem_cons.mp kinds
    obtain ⟨float, floats⟩ := List.forall_mem_cons.mp floats
    obtain ⟨named, concrete⟩ := List.forall_mem_cons.mp concrete
    cases decoded with
    | cons read more =>
      exact .cons (twin_of_decode kind float named first read) (ih kinds floats concrete more)

theorem recurs_of_encode {value again : Value} (kind : value.OfKind spec.base spec.kind)
    {text : String} (encoded : value.encode spec.kind = .ok text)
    (decoded : (decode readObject text spec.kind (some spec.flag) spec.base).result = .ok again)
    (same : again.encode spec.kind = .ok text) : value.Inside Handler.Recurs := by
  intro handler held
  rw [kind.parts_eq, List.mem_singleton] at held
  subst held
  rw [kind.eq_object] at encoded decoded same
  exact ⟨text, _, _, again, encoded, decoded, same⟩

theorem recurs_of_encoded {items agains : List Value}
    (kinds : ∀ item ∈ items, item.OfKind spec.base spec.kind) {texts : List String}
    (encoded : List.Forall₂ (fun item text => item.encode spec.kind = .ok text) items texts)
    (decoded : Decoded (fun raw => decode readObject raw spec.kind (some spec.flag) spec.base)
      texts agains)
    (again : List.Forall₂ (fun item text => item.encode spec.kind = .ok text) agains texts) :
    ∀ item ∈ items, item.Inside Handler.Recurs := by
  induction encoded generalizing agains with
  | nil => simp
  | cons first _ ih =>
    obtain ⟨kind, kinds⟩ := List.forall_mem_cons.mp kinds
    cases decoded with
    | cons read more =>
      cases again with
      | cons same rest =>
        exact List.forall_mem_cons.mpr ⟨recurs_of_encode kind first read same, ih kinds more rest⟩

/-- What can turn down more items than a value has: a constraint on objects, since the extra text
would be an announcement, or one on an option with nothing behind. -/
def Steady (spec : OptionSpec) (rest : List String) : Prop :=
  spec.isArray = true → spec.constraint ≠ none → rest = [] ∨ spec.kind = .object ∧
    ∃ flags, Spelled flags rest ∧ spec.flag ∉ flags ∧ ∀ flag ∈ flags, IsWord flag

-- An extra item would be read from an announcement, and no object is.
theorem Steady.free {rest : List String} (steady : spec.Steady rest) (array : spec.isArray = true)
    {grown : List Token} (spent : Spent grown) {other : Value} {others : List Value}
    (left : (collect (fun raw => decode readObject raw spec.kind (some spec.flag) spec.base)
      spec.flag (grown ++ unmarked rest)).1.result = .ok (other :: others)) :
    spec.constraint = none := by
  by_contra constrained
  obtain ⟨text, after, taken, decoded⟩ := exists_of_collect_cons left
  rw [spent.passed.takePair] at taken
  obtain ⟨after, taken⟩ := Taken.of_behind_value taken
  rcases steady array constrained with rfl | ⟨object, flags, spelled, unknown, words⟩
  · simp [unmarked, takePair] at taken
  · obtain ⟨known, member, rfl⟩ := spelled.takePair unknown taken
    rw [object] at decoded
    exact (words known member).readObject_announce spec.base (some spec.flag) other decoded

/-- How an option read its own tokens only. -/
structure Exact (spec : OptionSpec) (value : Value) (s : TokenSequence) (rest : List String) :
    Prop where
  alone : spec.Seeks value → announce spec.flag ∉ rest
  left : ∃ grown, Spent grown ∧ (spec.parse readObject s).2 = ⟨grown ++ unmarked rest⟩
  recurs : value.Inside Handler.Recurs

section

-- An option reads its tokens and others behind, and what it keeps is written so that the same
-- tokens come out again, as far as they are looked at.
variable {value new kept old : Value} {own rest own' rest' : List String} {front : List Token}
  (written : spec.tokens value = .ok own) (spent : Spent front)
  (read : (spec.parse readObject ⟨front ++ unmarked (own ++ rest)⟩).1.result = .ok new)
  (keeps : spec.Keeps old new kept) (again : spec.tokens kept = .ok own')
  (same : own' ++ rest' = own ++ rest)

include written spent read keeps again same

theorem exact_single (single : spec.isArray = false) (kind : value.OfKind spec.base spec.kind)
    (accepted : spec.accepts value = .ok true) (floats : value.FloatsReadBack)
    (concrete : value.Inside (·.id.IsConcrete)) :
    spec.Exact value ⟨front ++ unmarked (own ++ rest)⟩ rest ∧ own' = own ∧ rest' = rest := by
  have valued := kind.ne_flag
  rw [tokens_single single valued] at written again
  obtain ⟨text, encoded, rfl⟩ := map_eq_ok.mp written
  obtain ⟨text', encoded', rfl⟩ := map_eq_ok.mp again
  obtain ⟨grown, spent, taken⟩ := takePair_own spec.flag spent text rest
  have found := parse_value readObject single valued taken
  have decoded : (decode readObject text spec.kind (some spec.flag) spec.base).result = .ok new :=
    (congrArg (·.1.result) found).symm.trans read
  have twin := twin_of_decode kind floats concrete encoded decoded
  obtain rfl := keeps.eq_new ((accepts_twin twin).trans accepted)
  obtain ⟨rfl, rest⟩ : text' = text ∧ rest' = rest := by simpa using same
  exact ⟨⟨fun seeks => absurd seeks (not_seeks_single single valued),
    ⟨grown, spent, congrArg Prod.snd found⟩, recurs_of_encode kind encoded decoded encoded'⟩,
    rfl, rest⟩

theorem exact_flag (single : spec.isArray = false) (flag : spec.kind = .flag)
    (free : spec.constraint = none) (ends : rest.head? ≠ some (announce spec.flag))
    {isSet : Bool} (value_eq : value = .bool isSet) :
    spec.Exact value ⟨front ++ unmarked (own ++ rest)⟩ rest ∧ own' = own ∧ rest' = rest := by
  subst value_eq
  obtain rfl := keeps.eq_new (by simp [accepts, free])
  have plain : (Value.bool isSet).Inside Handler.Recurs := by
    simp [Value.Inside, Value.parts, Handler.toValue]
  cases isSet with
  | true =>
    rw [(Emits.set single flag).tokens_eq] at written
    cases written
    obtain ⟨grown, spent, taken⟩ := takeFirst?_own spec.flag spent rest
    have found := parse_set readObject single flag taken
    obtain rfl : Value.bool true = kept :=
      Except.ok.inj ((congrArg (·.1.result) found).symm.trans read)
    rw [(Emits.set single flag).tokens_eq] at again
    cases again
    exact ⟨⟨fun seeks => absurd seeks (not_seeks_set single),
      ⟨grown, spent, congrArg Prod.snd found⟩, plain⟩, rfl, by simpa using same⟩
  | false =>
    rw [(Emits.unset single flag).tokens_eq] at written
    cases written
    rw [List.nil_append] at read same ⊢
    cases taken : takeFirst? spec.flag (front ++ unmarked rest) with
    | some after =>
      -- Another announcement was found, so one is written, where none begins the tokens behind.
      have found := parse_set readObject single flag taken
      obtain rfl : Value.bool true = kept :=
        Except.ok.inj ((congrArg (·.1.result) found).symm.trans read)
      rw [(Emits.set single flag).tokens_eq] at again
      cases again
      rw [← same] at ends
      exact absurd rfl ends
    | none =>
      have found := parse_unset readObject single flag taken
      obtain rfl : Value.bool false = kept :=
        Except.ok.inj ((congrArg (·.1.result) found).symm.trans read)
      rw [(Emits.unset single flag).tokens_eq] at again
      cases again
      rw [takeFirst?_eq_none_iff, remaining_spent_append spent] at taken
      exact ⟨⟨fun _ => taken, ⟨front, spent, congrArg Prod.snd found⟩, plain⟩, rfl, same⟩

theorem exact_array (array : spec.isArray = true) (valued : spec.kind ≠ .flag)
    {items : List Value} (sequence : value = .list items ∨ value = .tuple items)
    (kinds : ∀ item ∈ items, item.OfKind spec.base spec.kind)
    (traced : items = [] → spec.default.items = .ok []) (accepted : spec.accepts value = .ok true)
    (floats : value.FloatsReadBack) (concrete : value.Inside (·.id.IsConcrete))
    (ends : rest.head? ≠ some (announce spec.flag)) (steady : spec.Steady rest) :
    spec.Exact value ⟨front ++ unmarked (own ++ rest)⟩ rest ∧ own' = own ∧ rest' = rest := by
  have parts := Value.parts_of_sequence sequence
  rw [tokens_array array sequence] at written
  obtain ⟨texts, encoded, rfl⟩ := Value.itemTokens_eq_ok.mp written
  -- The items of the value are read first, and then others if there are any.
  obtain ⟨all, collected, _⟩ := parse_array_ok array valued read
  obtain ⟨agains, others, grown, rfl, decoded, spent, left, after⟩ :=
    collect_pairs_ok spent collected
  have twins := twins_of_decoded kinds
    (fun item member => (kinds item member).floatsReadBack (parts ▸ member) floats)
    (fun item member => (kinds item member).inside (parts ▸ member) concrete) encoded decoded
  have count := twins.length_eq
  have filled : agains ++ others = [] → spec.default.items = .ok [] := by
    intro empty
    apply traced
    rw [← List.length_eq_zero_iff, count]
    simp [(List.append_eq_nil_iff.mp empty).1]
  rw [parse_array_list array valued collected filled] at read
  cases read
  have accepts : spec.accepts (.list (agains ++ others)) = .ok true := by
    cases others with
    | nil => rw [List.append_nil, accepts_twins twins sequence, accepted]
    | cons other others =>
      have free := steady.free array spent left
      simp [OptionSpec.accepts, free]
  obtain rfl := keeps.eq_new accepts
  -- More items give more pairs, and the next announcement would not be where it is.
  rw [tokens_array array (.inl rfl)] at again
  obtain ⟨texts', encoded', rfl⟩ := Value.itemTokens_eq_ok.mp again
  have longer : texts.length ≤ texts'.length := by
    rw [← encoded.length_eq, ← encoded'.length_eq, List.length_append, count]
    omega
  obtain ⟨rfl, tails⟩ := pairs_append_cancel longer ends same
  obtain rfl : others = [] := by
    have total := encoded'.length_eq
    rw [← encoded.length_eq, List.length_append, count] at total
    exact List.eq_nil_of_length_eq_zero (by omega)
  have absent := absent_of_collect_nil left
  rw [List.append_nil] at encoded'
  have recurs := recurs_of_encoded kinds encoded decoded encoded'
  refine ⟨⟨fun _ => ?_, ⟨grown, spent, ?_⟩, ?_⟩, rfl, tails⟩
  · rwa [remaining_spent_append spent] at absent
  · rw [collect_absent absent] at after
    rw [parse_array_tokens array valued, after]
  · intro handler member
    rw [parts] at member
    exact Value.Inside.here handler (recurs _ member)

theorem Fits.exact (regular : spec.Regular) (fits : spec.Fits value)
    (accepted : spec.accepts value = .ok true) (floats : value.FloatsReadBack)
    (concrete : value.Inside (·.id.IsConcrete))
    (ends : rest.head? ≠ some (announce spec.flag)) (steady : spec.Steady rest) :
    spec.Exact value ⟨front ++ unmarked (own ++ rest)⟩ rest ∧ own' = own ∧ rest' = rest := by
  cases fits with
  | single single kind =>
    exact exact_single written spent read keeps again same single kind accepted floats concrete
  | flag single flag isSet =>
    exact exact_flag written spent read keeps again same single flag (regular.flag flag).2 ends rfl
  | array array valued sequence kinds traced =>
    exact exact_array written spent read keeps again same array valued sequence kinds traced
      accepted floats concrete ends steady

end

end OptionSpec

/-- An array with a constraint has no level above, and stands last if it holds no objects. -/
def Guarded (top : Bool) : List OptionSpec → Prop
  | [] => True
  | spec :: specs =>
      (spec.isArray = true → spec.constraint.isSome = true →
        top = true ∧ (specs.isEmpty = true ∨ spec.kind = .object)) ∧ Guarded top specs

/-- What keeps the tokens of the levels apart: distinct flags, no flag that the levels above can
announce first, and guarded constraints. -/
def Orderly : List Level → Prop
  | [] => True
  | level :: above =>
      ((level.options.map OptionSpec.flag).Nodup ∧
        (∀ spec ∈ level.options, spec.flag ∉ leading (above.flatMap Level.options)) ∧
          Guarded above.isEmpty level.options) ∧ Orderly above

instance decidableGuarded (top : Bool) : (specs : List OptionSpec) → Decidable (Guarded top specs)
  | [] => isTrue trivial
  | _ :: specs =>
      have := decidableGuarded top specs
      inferInstanceAs (Decidable (_ ∧ _))

instance decidableOrderly : (levels : List Level) → Decidable (Orderly levels)
  | [] => isTrue trivial
  | _ :: above =>
      have := decidableOrderly above
      inferInstanceAs (Decidable (_ ∧ _))

theorem ClassId.orderly (id : ClassId) : Orderly id.levels := by
  cases id <;> decide

theorem Guarded.steady {spec : OptionSpec} {specs : List OptionSpec} {top : Bool}
    (guarded : Guarded top (spec :: specs)) {row : List Value} (fits : RowFits specs row)
    {own behind : List String} (written : Value.rowTokens specs row = .ok own)
    (unique : spec.flag ∉ specs.map OptionSpec.flag) (words : ∀ spec ∈ specs, IsWord spec.flag)
    (alone : top = true → behind = []) : spec.Steady (own ++ behind) := by
  intro array constrained
  rcases guarded.1 array (Option.isSome_iff_ne_none.mpr constrained) with ⟨isTop, last | object⟩
  · obtain rfl := List.isEmpty_iff.mp last
    rw [Value.rowTokens_nil] at written
    cases written
    exact .inl (alone isTop)
  · rw [alone isTop, List.append_nil]
    exact .inr ⟨object, _, fits.spelled written, unique, by simpa using words⟩

/-- If a row comes back with the same tokens, each option has read its own tokens only. -/
theorem RowFits.exact {specs : List OptionSpec} {row : List Value} (fits : RowFits specs row)
    (regular : ∀ spec ∈ specs, spec.Regular) (words : ∀ spec ∈ specs, IsWord spec.flag)
    (distinct : (specs.map OptionSpec.flag).Nodup)
    (floats : ∀ value ∈ row, value.FloatsReadBack)
    (concrete : ∀ value ∈ row, value.Inside (·.id.IsConcrete))
    {behind : List String} (ends : ∀ spec ∈ specs, behind.head? ≠ some (announce spec.flag))
    {top : Bool} (guarded : Guarded top specs) (alone : top = true → behind = [])
    {own : List String} (written : Value.rowTokens specs row = .ok own) {front : List Token}
    (spent : Spent front) {old : List Value} (sized : old.length = specs.length)
    (done : (assignRow readObject specs old ⟨front ++ unmarked (own ++ behind)⟩).fault = none)
    {own' behind' : List String}
    (again : Value.rowTokens specs
      (assignRow readObject specs old ⟨front ++ unmarked (own ++ behind)⟩).row = .ok own')
    (same : own' ++ behind' = own ++ behind) :
    Apart specs row behind ∧ (∀ value ∈ row, value.Inside Handler.Recurs) ∧ behind' = behind ∧
      (assignRow readObject specs old
        ⟨front ++ unmarked (own ++ behind)⟩).tokens.remaining = behind := by
  induction fits generalizing front old own own' with
  | nil =>
    obtain rfl := List.eq_nil_of_length_eq_zero sized
    rw [Value.rowTokens_nil] at written again
    cases written
    cases again
    exact ⟨trivial, by simp, same, remaining_spent_append spent behind⟩
  | @cons spec value specs row first rest ih =>
    obtain ⟨previous, old, rfl⟩ : ∃ previous others, old = previous :: others :=
      List.exists_cons_of_length_eq_add_one sized
    obtain ⟨own, more, writtenOwn, writtenMore, rfl⟩ := Value.rowTokens_eq_ok written
    obtain ⟨settled, regular⟩ := List.forall_mem_cons.mp regular
    obtain ⟨_, words⟩ := List.forall_mem_cons.mp words
    obtain ⟨unique, distinct⟩ := List.nodup_cons.mp distinct
    obtain ⟨float, floats⟩ := List.forall_mem_cons.mp floats
    obtain ⟨named, concrete⟩ := List.forall_mem_cons.mp concrete
    obtain ⟨next, ends⟩ := List.forall_mem_cons.mp ends
    rw [List.append_assoc] at done again same ⊢
    obtain ⟨fault, _, run⟩ | ⟨new, kept, rejected, read, keeps, run⟩ :=
      assignRow_cons_cases readObject spec specs previous old
        ⟨front ++ unmarked (own ++ (more ++ behind))⟩
    · simp [run] at done
    · rw [run] at done again ⊢
      obtain ⟨own', more', againOwn, againMore, rfl⟩ := Value.rowTokens_eq_ok again
      rw [List.append_assoc] at same
      -- What follows the own tokens does not begin with the announcement that was asked for.
      have head := RowFits.head_ne rest writtenMore unique next
      have steady := guarded.steady rest writtenMore unique words alone
      obtain ⟨exact, rfl, tails⟩ := OptionSpec.Fits.exact writtenOwn spent read keeps againOwn same
        settled first.1 first.2 float named head steady
      obtain ⟨grown, spent, left⟩ := exact.left
      rw [left] at done againMore ⊢
      obtain ⟨apart, recurs, ends, remaining⟩ := ih regular words distinct floats concrete ends
        guarded.2 writtenMore spent (by simpa using sized) done againMore tails
      refine ⟨⟨?_, apart⟩, List.forall_mem_cons.mpr ⟨exact.recurs, recurs⟩, ends, remaining⟩
      intro seeks
      have absent := exact.alone seeks
      rw [List.mem_append, not_or] at absent
      exact ⟨fun member => absent.1 (RowFits.rowTexts_subset rest writtenMore member), absent.2⟩

theorem LevelsFit.exact {levels : List Level} {rows : List (List Value)}
    (fits : LevelsFit levels rows) (orderly : Orderly levels)
    (regular : ∀ level ∈ levels, ∀ spec ∈ level.options, spec.Regular)
    (words : ∀ level ∈ levels, ∀ spec ∈ level.options, IsWord spec.flag)
    (floats : ∀ row ∈ rows, ∀ value ∈ row, value.FloatsReadBack)
    (concrete : ∀ row ∈ rows, ∀ value ∈ row, value.Inside (·.id.IsConcrete))
    {tokens left : List String} (written : Value.levelTokens levels rows = .ok tokens)
    {olds : List (List Value)}
    (sized : List.Forall₂ (fun level old => old.length = level.options.length) levels olds)
    (done : (assignLevels readObject levels olds tokens).leftover = .ok left)
    (again : Value.levelTokens levels (assignLevels readObject levels olds tokens).rows =
      .ok tokens) :
    LevelsApart levels rows ∧ ∀ row ∈ rows, ∀ value ∈ row, value.Inside Handler.Recurs := by
  induction fits generalizing olds tokens with
  | nil => exact ⟨trivial, by simp⟩
  | @cons level row levels rows first rest ih =>
    cases sized with
    | @cons _ old _ olds size sized =>
      obtain ⟨⟨distinct, leads, guarded⟩, orderly⟩ := orderly
      obtain ⟨own, above, writtenOwn, writtenAbove, rfl⟩ := Value.levelTokens_eq_ok written
      obtain ⟨settled, regular⟩ := List.forall_mem_cons.mp regular
      obtain ⟨word, words⟩ := List.forall_mem_cons.mp words
      obtain ⟨float, floats⟩ := List.forall_mem_cons.mp floats
      obtain ⟨named, concrete⟩ := List.forall_mem_cons.mp concrete
      have ends : ∀ spec ∈ level.options, above.head? ≠ some (announce spec.flag) := by
        intro spec member first
        obtain ⟨flag, leading, same⟩ := LevelsFit.head rest writtenAbove first
        exact leads spec member (announce_injective same ▸ leading)
      have alone : levels.isEmpty = true → above = [] := by
        intro empty
        obtain rfl := List.isEmpty_iff.mp empty
        rw [Value.levelTokens_nil] at writtenAbove
        exact (Except.ok.inj writtenAbove).symm
      unfold assignLevels at done again
      cases fault : (assignRow readObject level.options old (ofTexts (own ++ above))).fault with
      | some fault' => simp [fault] at done
      | none =>
        simp only [fault] at done again
        obtain ⟨own', above', againOwn, againAbove, same⟩ := Value.levelTokens_eq_ok again
        have nothing : Spent [] := by simp [Spent]
        obtain ⟨apart, recurs, rfl, remaining⟩ := RowFits.exact first settled word distinct float
          named ends guarded alone writtenOwn nothing size fault againOwn same.symm
        change (assignRow readObject level.options old (ofTexts (own ++ above'))).tokens.remaining =
          above' at remaining
        rw [remaining] at done againAbove
        obtain ⟨others, recur⟩ :=
          ih orderly regular words floats concrete writtenAbove sized done againAbove
        refine ⟨⟨?_, others⟩, List.forall_mem_cons.mpr ⟨recurs, recur⟩⟩
        intro tokens written
        rw [writtenAbove] at written
        exact Except.ok.inj written ▸ apart

end OptionProtocol
