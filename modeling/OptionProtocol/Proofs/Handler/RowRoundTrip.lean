import OptionProtocol.Proofs.Handler.Assigning
import OptionProtocol.Proofs.Handler.Written

/-! Reading the tokens of one level gives its values back and leaves the tokens behind them.
Options are read in the order in which they were written: while an option is read, all tokens
in front of its own are taken. -/

set_option autoImplicit false

namespace OptionProtocol

open TokenSequence

namespace OptionSpec

/-- The text of `value` is read as `again`. -/
def ReadsBack (spec : OptionSpec) (reader : ObjectReader) (value again : Value) : Prop :=
  ∃ text, value.encode spec.kind = .ok text ∧
    (decode reader text spec.kind (some spec.flag) spec.base).result = .ok again

/-- The tokens of `value` hold what it takes to read `again`: a text for a single value and for
each item, the announcement for a flag. A list that leaves no token is the default. -/
inductive Restores (spec : OptionSpec) (reader : ObjectReader) : Value → Value → Prop where
  | single {value again : Value} (single : spec.isArray = false) (valued : spec.kind ≠ .flag)
      (reads : spec.ReadsBack reader value again) : Restores spec reader value again
  | flag (single : spec.isArray = false) (flag : spec.kind = .flag) (isSet : Bool) :
      Restores spec reader (.bool isSet) (.bool isSet)
  | array {value : Value} {items agains : List Value} (array : spec.isArray = true)
      (valued : spec.kind ≠ .flag) (sequence : value = .list items ∨ value = .tuple items)
      (reads : List.Forall₂ (spec.ReadsBack reader) items agains)
      (traced : items = [] → spec.default.items = .ok []) :
      Restores spec reader value (.list agains)

variable {spec : OptionSpec} {reader : ObjectReader}

/-- Reading an option whose tokens are next takes just them, unless it looks beyond them and
finds its announcement there. -/
theorem Restores.parse {value again : Value} (restores : spec.Restores reader value again) :
    ∃ own, spec.Emits value own ∧
      ∀ (rest : List String) (front : List Token), Spent front →
        (spec.Seeks value → announce spec.flag ∉ rest) →
        ∃ grown, Spent grown ∧
          (spec.parse reader ⟨front ++ unmarked (own ++ rest)⟩).1.result = .ok again ∧
          (spec.parse reader ⟨front ++ unmarked (own ++ rest)⟩).2 = ⟨grown ++ unmarked rest⟩ := by
  cases restores with
  | single single valued reads =>
    obtain ⟨text, encoded, decoded⟩ := reads
    refine ⟨_, .single single valued encoded, ?_⟩
    intro rest front spent _
    obtain ⟨grown, spent, taken⟩ := takePair_own spec.flag spent text rest
    refine ⟨grown, spent, ?_⟩
    rw [List.cons_append, List.cons_append, List.nil_append, parse_value reader single valued taken]
    exact ⟨decoded, rfl⟩
  | flag single flag isSet =>
    cases isSet with
    | true =>
      refine ⟨_, .set single flag, ?_⟩
      intro rest front spent _
      obtain ⟨grown, spent, taken⟩ := takeFirst?_own spec.flag spent rest
      refine ⟨grown, spent, ?_⟩
      rw [List.cons_append, List.nil_append, parse_set reader single flag taken]
      exact ⟨rfl, rfl⟩
    | false =>
      -- No token is written, so the whole sequence has to be free of the announcement.
      refine ⟨_, .unset single flag, ?_⟩
      intro rest front spent apart
      have absent : takeFirst? spec.flag (front ++ unmarked rest) = none := by
        rw [takeFirst?_eq_none_iff, remaining_spent_append spent]
        exact apart (.inr ⟨flag, rfl⟩)
      refine ⟨front, spent, ?_⟩
      rw [List.nil_append, parse_unset reader single flag absent]
      exact ⟨rfl, rfl⟩
  | @array _ items agains array valued sequence reads traced =>
    obtain ⟨texts, written, decoded⟩ := Value.exists_texts_of_reads reads
    refine ⟨_, .array array valued sequence written, ?_⟩
    intro rest front spent apart
    obtain ⟨grown, spent, result, left⟩ := collect_pairs spec.flag decoded spent rest
    have absent : announce spec.flag ∉ remaining ⟨grown ++ unmarked rest⟩ := by
      rw [remaining_spent_append spent]
      exact apart (.inl array)
    rw [collect_absent absent] at result left
    have traced : agains = [] → spec.default.items = .ok [] := by
      rintro rfl
      exact traced (List.forall₂_nil_right_iff.mp reads)
    refine ⟨grown, spent, ?_, ?_⟩
    · exact parse_array_list array valued (by simpa [Attempt.done, Except.map] using result) traced
    · rw [parse_array_tokens array valued, left]

end OptionSpec

/-- Each value of a row is written with the tokens of the value it is read as, and that value
is accepted. -/
inductive RowRestores (reader : ObjectReader) :
    List OptionSpec → List Value → List Value → Prop where
  | nil : RowRestores reader [] [] []
  | cons {spec : OptionSpec} {specs : List OptionSpec} {value again : Value}
      {values agains : List Value} (restores : spec.Restores reader value again)
      (accepted : spec.accepts again = .ok true) (same : spec.tokens again = spec.tokens value)
      (rest : RowRestores reader specs values agains) :
      RowRestores reader (spec :: specs) (value :: values) (again :: agains)

variable {reader : ObjectReader}

theorem RowRestores.tokens {specs : List OptionSpec} {row agains : List Value}
    (restores : RowRestores reader specs row agains) :
    ∃ own, Value.rowTokens specs row = .ok own ∧ Value.rowTokens specs agains = .ok own ∧
      ∀ token ∈ own, token ∈ specs.map (announce ·.flag) ∨ token ∈ rowTexts specs row := by
  induction restores with
  | nil => exact ⟨[], Value.rowTokens_nil _, Value.rowTokens_nil _, by simp⟩
  | @cons spec specs value again values agains restores _ same _ ih =>
    obtain ⟨own, emits, _⟩ := restores.parse
    have written := emits.tokens_eq
    obtain ⟨more, first, second, others⟩ := ih
    refine ⟨own ++ more, Value.rowTokens_cons_ok written first,
      Value.rowTokens_cons_ok (same ▸ written) second, ?_⟩
    intro token member
    rw [List.map_cons, List.mem_cons, rowTexts, List.mem_append]
    rcases List.mem_append.mp member with member | member
    · rcases emits.mem_valueTexts member with ⟨announced, _⟩ | text
      · exact .inl (.inl announced)
      · exact .inr (.inl text)
    · rcases others token member with announced | text
      · exact .inl (.inr announced)
      · exact .inr (.inr text)

theorem assignRow_accepted {spec : OptionSpec} {specs : List OptionSpec} {old value : Value}
    {row : List Value} {s after : TokenSequence}
    (read : (spec.parse reader s).1.result = .ok value) (left : (spec.parse reader s).2 = after)
    (accepted : spec.accepts value = .ok true) :
    assignRow reader (spec :: specs) (old :: row) s =
      (assignRow reader specs row after).after value (spec.parse reader s).1.rejected := by
  subst left
  simp [assignRow, read, accepted]

/-- Reading the tokens of a row behind spent ones gives the row and leaves what is behind. -/
theorem RowRestores.assignRow {specs : List OptionSpec} {row agains : List Value}
    (restores : RowRestores reader specs row agains)
    (distinct : (specs.map OptionSpec.flag).Nodup) {behind : List String}
    (apart : Apart specs row behind) {old : List Value} (sized : old.length = specs.length)
    {own : List String} (written : Value.rowTokens specs row = .ok own) {front : List Token}
    (spent : Spent front) :
    (assignRow reader specs old ⟨front ++ unmarked (own ++ behind)⟩).fault = none ∧
      (assignRow reader specs old ⟨front ++ unmarked (own ++ behind)⟩).row = agains ∧
      ∃ grown, Spent grown ∧
        (assignRow reader specs old ⟨front ++ unmarked (own ++ behind)⟩).tokens =
          ⟨grown ++ unmarked behind⟩ := by
  induction restores generalizing old front own with
  | nil =>
    obtain rfl := List.eq_nil_of_length_eq_zero sized
    rw [Value.rowTokens_nil] at written
    cases written
    exact ⟨rfl, rfl, front, spent, rfl⟩
  | @cons spec specs value again values agains restores accepted _ rest ih =>
    obtain ⟨first, emits, read⟩ := restores.parse
    obtain ⟨more, moreWritten, _, members⟩ := rest.tokens
    obtain rfl : first ++ more = own := by
      rw [Value.rowTokens_cons_ok emits.tokens_eq moreWritten] at written
      exact Except.ok.inj written
    obtain ⟨previous, old, rfl⟩ : ∃ previous others, old = previous :: others :=
      List.exists_cons_of_length_eq_add_one sized
    obtain ⟨own, distinct⟩ := List.nodup_cons.mp distinct
    -- The announcement is not one of the others, not a value text and not among the tokens behind.
    have free : spec.Seeks value → announce spec.flag ∉ more ++ behind := by
      intro seeks member
      obtain ⟨texts, ends⟩ := apart.1 seeks
      rcases List.mem_append.mp member with member | member
      · rcases members _ member with announced | text
        · obtain ⟨other, inside, same⟩ := List.mem_map.mp announced
          exact own (announce_injective same ▸ List.mem_map_of_mem inside)
        · exact texts text
      · exact ends member
    obtain ⟨middle, spent, result, left⟩ := read (more ++ behind) front spent free
    rw [List.append_assoc, assignRow_accepted result left accepted]
    obtain ⟨fault, row, grown, spent, tokens⟩ :=
      ih distinct apart.2 (by simpa using sized) moreWritten spent
    exact ⟨fault, congrArg (again :: ·) row, grown, spent, tokens⟩

theorem RowRestores.assignRow_ofTexts {specs : List OptionSpec} {row agains : List Value}
    (restores : RowRestores reader specs row agains)
    (distinct : (specs.map OptionSpec.flag).Nodup) {behind : List String}
    (apart : Apart specs row behind) {old : List Value} (sized : old.length = specs.length)
    {own : List String} (written : Value.rowTokens specs row = .ok own) :
    (OptionProtocol.assignRow reader specs old (.ofTexts (own ++ behind))).fault = none ∧
      (OptionProtocol.assignRow reader specs old (.ofTexts (own ++ behind))).row = agains ∧
      (OptionProtocol.assignRow reader specs old
        (.ofTexts (own ++ behind))).tokens.remaining = behind := by
  have nothing : Spent [] := by simp [Spent]
  obtain ⟨fault, values, grown, spent, left⟩ :=
    restores.assignRow distinct apart sized written nothing
  refine ⟨fault, values, ?_⟩
  change (OptionProtocol.assignRow reader specs old
    ⟨[] ++ unmarked (own ++ behind)⟩).tokens.remaining = _
  rw [left, remaining_spent_append spent]

theorem RowRestores.of_forall₂ {specs : List OptionSpec} {row : List Value}
    (restores : List.Forall₂ (fun spec value =>
      spec.Restores reader value value ∧ spec.accepts value = .ok true) specs row) :
    RowRestores reader specs row row := by
  induction restores with
  | nil => exact .nil
  | cons first _ ih => exact .cons first.1 first.2 rfl ih

/-- A level reads its own values back from its own tokens and leaves those of its parents. -/
theorem assignRow_own_tokens {options : List OptionSpec} {row old : List Value}
    {parents : List String} (distinct : (options.map OptionSpec.flag).Nodup)
    (sized : old.length = options.length)
    (restores : List.Forall₂ (fun spec value =>
      spec.Restores reader value value ∧ spec.accepts value = .ok true) options row)
    (apart : Apart options row parents) :
    ∃ own, Value.rowTokens options row = .ok own ∧
      (assignRow reader options old (.ofTexts (own ++ parents))).fault = none ∧
      (assignRow reader options old (.ofTexts (own ++ parents))).row = row ∧
      (assignRow reader options old (.ofTexts (own ++ parents))).tokens.remaining = parents := by
  have restores := RowRestores.of_forall₂ restores
  obtain ⟨own, written, _⟩ := restores.tokens
  exact ⟨own, written, restores.assignRow_ofTexts distinct apart sized written⟩

/-- Texts spelled like other flags of the level, a flag that is not set, two arrays, and tokens
of the parents that begin like an option of the level. -/
theorem assignRow_own_tokens_of_lookalikes :
    ∃ own, Value.rowTokens (Catalogue.ensemble.options.drop 2)
        [.list [.text "-v", .text "-folds"], .list [.path ⟨.root, ["a"]⟩], .int 7,
          .text "-class", .bool false, .list [.int 5, .int 2]] = .ok own ∧
      (assignRow readObject (Catalogue.ensemble.options.drop 2)
        (Catalogue.ensemble.defaults.drop 2) (.ofTexts (own ++ ["-class", "8"]))).fault = none ∧
      (assignRow readObject (Catalogue.ensemble.options.drop 2)
        (Catalogue.ensemble.defaults.drop 2) (.ofTexts (own ++ ["-class", "8"]))).row =
          [.list [.text "-v", .text "-folds"], .list [.path ⟨.root, ["a"]⟩], .int 7,
            .text "-class", .bool false, .list [.int 5, .int 2]] ∧
      (assignRow readObject (Catalogue.ensemble.options.drop 2)
        (Catalogue.ensemble.defaults.drop 2)
          (.ofTexts (own ++ ["-class", "8"]))).tokens.remaining = ["-class", "8"] := by
  have path : FilePath.ofString "/a" = ⟨.root, ["a"]⟩ := by decide
  refine assignRow_own_tokens (by decide) rfl ?_ ?_
  · refine .cons ⟨.array rfl (by decide) (.inl rfl)
      (.cons ⟨_, rfl, rfl⟩ (.cons ⟨_, rfl, rfl⟩ .nil)) (by simp), rfl⟩ ?_
    refine .cons ⟨.array rfl (by decide) (.inl rfl)
      (.cons ⟨"/a", rfl, congrArg (fun path => Except.ok (Value.path path)) path⟩ .nil)
      (by simp), rfl⟩ ?_
    refine .cons ⟨.single rfl (by decide) ⟨"7", rfl, rfl⟩, rfl⟩ ?_
    refine .cons ⟨.single rfl (by decide) ⟨_, rfl, rfl⟩, rfl⟩ ?_
    refine .cons ⟨.flag rfl rfl false, rfl⟩ ?_
    refine .cons ⟨.array rfl (by decide) (.inl rfl)
      (.cons ⟨"5", rfl, rfl⟩ (.cons ⟨"2", rfl, rfl⟩ .nil)) (by simp), rfl⟩ .nil
  · decide

end OptionProtocol
