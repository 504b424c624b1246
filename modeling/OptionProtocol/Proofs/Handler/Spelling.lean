import OptionProtocol.Proofs.Handler.Announcing
import OptionProtocol.Proofs.Handler.Nesting

/-! The shape of written tokens: announcements, each with at most one text behind it. What
stands behind a text is an announcement again, and no object is read from that. -/

set_option autoImplicit false

namespace OptionProtocol

open TokenSequence

/-- Announcements of some flags, each alone or with a text. -/
inductive Spelled (flags : List String) : List String → Prop where
  | nil : Spelled flags []
  | flag {flag : String} {rest : List String} (known : flag ∈ flags)
      (spelled : Spelled flags rest) : Spelled flags (announce flag :: rest)
  | pair {flag : String} {rest : List String} (known : flag ∈ flags) (text : String)
      (spelled : Spelled flags rest) : Spelled flags (announce flag :: text :: rest)

namespace Spelled

variable {flags : List String} {tokens : List String} {flag : String}

theorem append {more : List String} (first : Spelled flags tokens) (second : Spelled flags more) :
    Spelled flags (tokens ++ more) := by
  induction first with
  | nil => exact second
  | flag known _ ih => exact .flag known ih
  | pair known text _ ih => exact .pair known text ih

theorem mono {more : List String} (spelled : Spelled flags tokens) (subset : flags ⊆ more) :
    Spelled more tokens := by
  induction spelled with
  | nil => exact .nil
  | flag known _ ih => exact .flag (subset known) ih
  | pair known text _ ih => exact .pair (subset known) text ih

theorem pairs {texts : List String} (known : flag ∈ flags) :
    Spelled flags (TokenSequence.pairs flag texts) := by
  induction texts with
  | nil => exact .nil
  | cons text texts ih => exact .pair known text ih

theorem head (spelled : Spelled flags tokens) {token : String}
    (first : tokens.head? = some token) : ∃ flag ∈ flags, token = announce flag := by
  cases spelled with
  | nil => simp at first
  | flag known => exact ⟨_, known, (Option.some.inj first).symm⟩
  | pair known => exact ⟨_, known, (Option.some.inj first).symm⟩

-- An announcement of another option can only stand for a text, so what follows it and is taken
-- as its value is an announcement again.
theorem takePair (spelled : Spelled flags tokens) (other : flag ∉ flags) {text : String}
    {after : List Token} (taken : takePair flag (unmarked tokens) = .value text after) :
    ∃ known ∈ flags, text = announce known := by
  -- The announcements themselves are passed, so the option is only found at a text.
  have passed {known : String} (member : known ∈ flags) :
      Announces flag { text := announce known } = false := by
    rw [Bool.eq_false_iff]
    intro announces
    have same := announce_injective (announces_iff.mp announces).2
    exact other (same ▸ member)
  induction spelled generalizing after with
  | nil => simp [unmarked, TokenSequence.takePair] at taken
  | flag known _ ih =>
    obtain ⟨after, taken⟩ := exists_of_takePair_cons (passed known) taken
    exact ih taken
  | @pair _ rest known between spelled ih =>
    obtain ⟨after, taken⟩ := exists_of_takePair_cons (passed known) taken
    cases announces : Announces flag { text := between } with
    | false =>
      obtain ⟨after, taken⟩ := exists_of_takePair_cons announces taken
      exact ih taken
    | true =>
      cases rest with
      | nil => simp [TokenSequence.takePair, announces] at taken
      | cons next rest =>
        obtain rfl : next = text := by
          simp [TokenSequence.takePair, announces] at taken
          exact taken.1
        exact spelled.head rfl

end Spelled

namespace OptionSpec.Emits

variable {spec : OptionSpec} {value : Value} {own : List String}

theorem spelled (emits : spec.Emits value own) : Spelled [spec.flag] own := by
  have known : spec.flag ∈ [spec.flag] := List.mem_singleton_self _
  cases emits with
  | single => exact .pair known _ .nil
  | set => exact .flag known .nil
  | unset => exact .nil
  | array => exact .pairs known

theorem silent (emits : spec.Emits value []) : spec.isArray = true ∨ spec.kind = .flag := by
  generalize empty : ([] : List String) = own at emits
  cases emits with
  | single | set => simp at empty
  | unset _ flag => exact .inr flag
  | array array => exact .inl array

end OptionSpec.Emits

theorem RowFits.spelled {specs : List OptionSpec} {row : List Value} (fits : RowFits specs row)
    {own : List String} (written : Value.rowTokens specs row = .ok own) :
    Spelled (specs.map OptionSpec.flag) own := by
  induction fits generalizing own with
  | nil =>
    rw [Value.rowTokens_nil] at written
    cases written
    exact .nil
  | cons first _ ih =>
    obtain ⟨own, more, writtenOwn, writtenMore, rfl⟩ := Value.rowTokens_eq_ok written
    have here := (first.1.emits writtenOwn).spelled
    exact (here.mono (by simp)).append ((ih writtenMore).mono (by simp))

/-- The flags that can be announced first by the tokens of some options. -/
def leading : List OptionSpec → List String
  | [] => []
  | spec :: specs =>
      spec.flag :: if spec.isArray = true ∨ spec.kind = .flag then leading specs else []

theorem RowFits.head {specs others : List OptionSpec} {row : List Value}
    (fits : RowFits specs row) {own behind : List String}
    (written : Value.rowTokens specs row = .ok own)
    (next : ∀ token, behind.head? = some token → ∃ flag ∈ leading others, token = announce flag)
    {token : String} (first : (own ++ behind).head? = some token) :
    ∃ flag ∈ leading (specs ++ others), token = announce flag := by
  induction fits generalizing own with
  | nil =>
    rw [Value.rowTokens_nil] at written
    cases written
    exact next token first
  | @cons spec value specs row fit _ ih =>
    obtain ⟨own, more, writtenOwn, writtenMore, rfl⟩ := Value.rowTokens_eq_ok written
    have emits := fit.1.emits writtenOwn
    rw [List.cons_append, leading]
    cases own with
    | nil =>
      rw [if_pos emits.silent]
      obtain ⟨flag, member, same⟩ := ih writtenMore first
      exact ⟨flag, by simp [member], same⟩
    | cons head own =>
      have begins : (head :: own).head? = some head := rfl
      obtain ⟨flag, member, same⟩ := emits.spelled.head begins
      obtain rfl := List.mem_singleton.mp member
      obtain rfl : head = token := Option.some.inj first
      exact ⟨spec.flag, by simp, same⟩

theorem LevelsFit.head {levels : List Level} {rows : List (List Value)}
    (fits : LevelsFit levels rows) {tokens : List String}
    (written : Value.levelTokens levels rows = .ok tokens) {token : String}
    (first : tokens.head? = some token) :
    ∃ flag ∈ leading (levels.flatMap Level.options), token = announce flag := by
  induction fits generalizing tokens token with
  | nil =>
    rw [Value.levelTokens_nil] at written
    cases written
    simp at first
  | cons fit _ ih =>
    obtain ⟨own, above, writtenOwn, writtenAbove, rfl⟩ := Value.levelTokens_eq_ok written
    exact fit.head writtenOwn (fun token first => ih writtenAbove first) first

-- The tokens of later options begin with another announcement, if there are any.
theorem RowFits.head_ne {specs : List OptionSpec} {row : List Value} (fits : RowFits specs row)
    {own behind : List String} (written : Value.rowTokens specs row = .ok own) {flag : String}
    (unique : flag ∉ specs.map OptionSpec.flag) (ends : behind.head? ≠ some (announce flag)) :
    (own ++ behind).head? ≠ some (announce flag) := by
  cases own with
  | nil => exact ends
  | cons token own =>
    intro first
    obtain ⟨other, member, same⟩ := (fits.spelled written).head first
    exact unique (announce_injective same ▸ member)

theorem IsWord.join_announce {flag : String} (word : IsWord flag) :
    CommandLine.join [announce flag] = announce flag := by
  have plain : ∀ c ∈ (announce flag).toList, CommandLine.isSpecial c = false := by
    intro c member
    apply CommandLine.isSpecial_of_isInert
    rcases word.mem_announce member with alpha | rfl
    · simp [CommandLine.isInert, Char.isAlphanum, alpha]
    · decide
  have filled : (announce flag).toList ≠ [] := by simp [announce]
  have bare : CommandLine.quote (announce flag).toList = (announce flag).toList := by
    unfold CommandLine.quote
    exact if_pos ⟨filled, by simpa using plain⟩
  simp [CommandLine.join, bare]

theorem IsWord.resolve_announce {flag : String} (word : IsWord flag) :
    Catalogue.resolve (announce flag) = .error .unknown := by
  have apart : '.' ∉ (announce flag).toList := by
    intro member
    rcases word.mem_announce member with alpha | dash
    · exact absurd alpha (by decide)
    · exact absurd dash (by decide)
  simp [Catalogue.resolve, Text.pieces_singleton apart, Catalogue.resolveFrom]

/-- No object is read from an announcement. -/
theorem IsWord.readObject_announce {flag : String} (word : IsWord flag) (base : Option ClassId)
    (asked : Option String) (value : Value) :
    (readObject base asked (announce flag)).result ≠ .ok value := by
  intro read
  obtain ⟨name, id, tokens, split, resolved, _⟩ := readObject_ok read
  have alone := CommandLine.split_join [announce flag]
  rw [word.join_announce, split] at alone
  cases alone
  rw [word.resolve_announce] at resolved
  cases resolved

end OptionProtocol
