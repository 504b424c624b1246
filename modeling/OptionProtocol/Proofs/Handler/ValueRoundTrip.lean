import OptionProtocol.Proofs.Handler.Collecting
import OptionProtocol.Proofs.Handler.ObjectTree
import OptionProtocol.Proofs.Number
import OptionProtocol.Proofs.TokenSequence.Places

/-! Values that come back from their own tokens: a single value from any place among other tokens,
and a list from one pair of tokens for each item. A list without items leaves no token, and then
the default is read. -/

set_option autoImplicit false

namespace OptionProtocol

open TokenSequence

namespace Value

/-- A value of a kind that one text stands for. -/
inductive IsScalar : Kind → Value → Prop where
  | integer (n : Int) : IsScalar .integer (.int n)
  | long (n : Int) : IsScalar .long (.int n)
  | float (x : Binary64) : IsScalar .float (.float x)
  | double (x : Binary64) : IsScalar .double (.float x)
  | text (content : String) : IsScalar .text (.text content)
  | path {path : FilePath} (proper : path.IsProper) : IsScalar .path (.path path)

/-- The value has a text, and the value is read from it. -/
def Survives (reader : ObjectReader) (base : Option ClassId) (flag : Option String) (kind : Kind)
    (value : Value) : Prop :=
  ∃ text, value.encode kind = .ok text ∧ (decode reader text kind flag base).result = .ok value

variable {reader : ObjectReader} {base : Option ClassId} {flag : Option String} {kind : Kind}
  {value : Value} {text : String}

theorem IsScalar.ne_flag (scalar : value.IsScalar kind) : kind ≠ .flag := by
  cases scalar <;> simp

theorem encode_int_eq_ok {n : Int} (whole : kind = .integer ∨ kind = .long) :
    (Value.int n).encode kind = .ok text ↔
      Number.isWritable n = true ∧ Number.intText n = text := by
  have same : (Value.int n).encode kind = intText n := by
    obtain rfl | rfl := whole <;> rfl
  rw [same, intText]
  cases Number.isWritable n <;> simp

/-- A value is read from its text, if this holds of the numbers. -/
theorem IsScalar.decode_encode (scalar : value.IsScalar kind)
    (encoded : value.encode kind = .ok text) (floats : value.FloatsReadBack) :
    decode reader text kind flag base = .done value := by
  cases scalar with
  | integer n | long n =>
    obtain ⟨writable, rfl⟩ := (encode_int_eq_ok (by simp)).mp encoded
    simp [decode, Number.readInt?_intText writable]
  | float x | double x =>
    obtain rfl : x.text = text := Except.ok.inj encoded
    simp [decode, floats x (List.mem_singleton_self _)]
  | text content =>
    obtain rfl : content = text := Except.ok.inj encoded
    rfl
  | @path path proper =>
    obtain rfl : path.text = text := Except.ok.inj encoded
    simp [decode, FilePath.ofString_text proper]

theorem IsScalar.survives (scalar : value.IsScalar kind)
    (writes : ∃ text, value.encode kind = .ok text) (floats : value.FloatsReadBack) :
    value.Survives reader base flag kind := by
  obtain ⟨text, encoded⟩ := writes
  exact ⟨text, encoded, by rw [scalar.decode_encode encoded floats]; rfl⟩

theorem OfKind.scalar_or_object (ofKind : value.OfKind base kind) :
    (value.IsScalar kind ∧ ∃ text, value.encode kind = .ok text) ∨
      kind = .object ∧ ∃ handler : Handler, value = handler.toValue ∧
        ∀ required ∈ base, handler.id.derivesFrom required = true := by
  cases ofKind with
  | @integer n writable | @long n writable =>
    refine .inl ⟨by constructor, Number.intText n, ?_⟩
    exact (encode_int_eq_ok (by simp)).mpr ⟨writable, rfl⟩
  | float x | double x => exact .inl ⟨by constructor, x.text, rfl⟩
  | text content => exact .inl ⟨.text content, content, rfl⟩
  | @path path proper => exact .inl ⟨.path proper, path.text, rfl⟩
  | @object id rows derives => exact .inr ⟨rfl, ⟨id, rows⟩, rfl, derives⟩

/-- What an integer or a path was read from need not be its own text, but it survives that one. -/
theorem survives_of_decode {raw : String} (plain : kind ∈ [.integer, .long, .path])
    (read : (decode reader raw kind flag base).result = .ok value) :
    value.Survives reader base flag kind := by
  simp only [List.mem_cons, List.not_mem_nil, or_false] at plain
  obtain rfl | rfl | rfl := plain
  case inl | inr.inl =>
    simp only [decode] at read
    split at read
    · rename_i n found
      cases read
      have writable := Number.isWritable_of_readInt? found
      refine IsScalar.survives (by constructor) ⟨Number.intText n, ?_⟩ ?_
      · exact (encode_int_eq_ok (by simp)).mpr ⟨writable, rfl⟩
      · simp [FloatsReadBack, parts]
    · cases read
  case inr.inr =>
    cases read
    refine IsScalar.survives (.path (FilePath.isProper_ofString raw)) ⟨_, rfl⟩ ?_
    simp [FloatsReadBack, parts]

end Value

section

variable {reader : ObjectReader} {base : Option ClassId} {flag : String} {kind : Kind}

namespace Written

theorem add_encoded {value : Value} {text : String} (valued : kind ≠ .flag)
    (encoded : value.encode kind = .ok text) (tokens : List String) :
    add tokens flag value kind = { tokens := tokens ++ [announce flag, text] } := by
  simp [add, valued, encoded]

theorem addItems_encoded {items : List Value} {texts : List String} (valued : kind ≠ .flag)
    (encoded : List.Forall₂ (fun item text => item.encode kind = .ok text) items texts)
    (tokens : List String) :
    addItems tokens flag kind items = { tokens := tokens ++ pairs flag texts } := by
  induction encoded generalizing tokens with
  | nil => simp [addItems]
  | cons first _ ih => simp [addItems, add_encoded valued first, ih]

end Written

/-- The value behind the first announcement is the one that is read. -/
theorem parse_behind (valued : kind ≠ .flag) {front : List String}
    (absent : announce flag ∉ front) (text : String) (behind : List String) (default : Value) :
    ((ofTexts (front ++ [announce flag, text] ++ behind)).parse reader flag default kind base).1 =
        decode reader text kind (some flag) base ∧
      ((ofTexts (front ++ [announce flag, text] ++ behind)).parse
        reader flag default kind base).2.remaining = front ++ behind := by
  have tokens : (ofTexts (front ++ [announce flag, text] ++ behind)).tokens =
      unmarked front ++ ⟨announce flag, false⟩ :: ⟨text, false⟩ :: unmarked behind := by
    simp [ofTexts, unmarked]
  have taken : takePair flag (unmarked front ++
      ⟨announce flag, false⟩ :: ⟨text, false⟩ :: unmarked behind) = _ :=
    (passed_unmarked absent).takePair_value (announces_iff_eq.mpr rfl) (by simp)
  unfold TokenSequence.parse
  rw [if_neg valued, takeValue, tokens, taken]
  exact ⟨rfl, by simp [remaining_append, remaining_cons]⟩

/-- A single value that is written comes back from any place among other tokens in front of which
the option is not announced, and the other tokens are left. What an integer or a path is read from
need not be its own text, but the value survives that text. -/
theorem parse_add (reader : ObjectReader) (base : Option ClassId) (flag : String) (kind : Kind) :
    (∀ value text, value.IsScalar kind → value.encode kind = .ok text → value.FloatsReadBack →
      ∀ front behind default, announce flag ∉ front →
        (Written.add [] flag value kind).fault = none ∧
        ((ofTexts (front ++ (Written.add [] flag value kind).tokens ++ behind)).parse
          reader flag default kind base).1 = .done value ∧
        ((ofTexts (front ++ (Written.add [] flag value kind).tokens ++ behind)).parse
          reader flag default kind base).2.remaining = front ++ behind) ∧
    (kind ∈ [.integer, .long, .path] → ∀ raw source value,
      (decode reader raw kind source base).result = .ok value →
        value.Survives reader base source kind) := by
  constructor
  · intro value text scalar encoded floats front behind default absent
    rw [Written.add_encoded scalar.ne_flag encoded, List.nil_append]
    obtain ⟨read, left⟩ := parse_behind scalar.ne_flag absent text behind default
    exact ⟨rfl, read.trans (scalar.decode_encode encoded floats), left⟩
  · intro plain raw source value read
    exact Value.survives_of_decode plain read

/-- The text of the value and a token behind it are spelled like the announcement, a number below
zero has a text that looks like one, and the integer is read from a text that is not its own. -/
theorem parse_add_lookalikes :
    ((ofTexts ["a", "-x", "-x", "-x"]).parse readObject "x" .absent .text none).1 =
        .done (.text "-x") ∧
      ((ofTexts ["a", "-x", "-x", "-x"]).parse readObject "x" .absent .text none).2.remaining =
        ["a", "-x"] ∧
      ((ofTexts ["-x", "-0.01"]).parse readObject "x" .absent .double none).1 =
        .done (.float (.ofRatio true 1 100)) ∧
      (Value.int 10).Survives readObject none (some "x") .integer := by
  obtain ⟨-, read, left⟩ := (parse_add readObject none "x" .text).1 (.text "-x") "-x" (.text "-x")
    rfl (by simp [Value.FloatsReadBack, Value.parts]) ["a"] ["-x"] .absent (by decide)
  have readNumber {x : Binary64} (shown : x.text = "-0.01")
      (again : Number.readFloat? x.text = some x) :
      ((ofTexts ["-x", "-0.01"]).parse readObject "x" .absent .double none).1 =
        .done (.float x) := by
    have encoded : (Value.float x).encode .double = .ok "-0.01" := congrArg Except.ok shown
    obtain ⟨-, read, -⟩ := (parse_add readObject none "x" .double).1 (.float x) "-0.01" (.double x)
      encoded (by simpa [Value.FloatsReadBack, Value.parts] using again) [] [] .absent (by simp)
    rwa [Written.add_encoded (by decide) encoded] at read
  have whole : Number.readInt? " +1_0 " = some 10 := by decide
  have decoded : (decode readObject " +1_0 " .integer (some "x") none).result = .ok (.int 10) := by
    simp [decode, whole, Attempt.done]
  exact ⟨read, left, readNumber (by decide +kernel) (by decide +kernel),
    (parse_add readObject none "x" .integer).2 (by decide) " +1_0 " (some "x") (.int 10) decoded⟩

/-- The items of a list come back from their tokens, and no token is left. Where there are no
items, there is no token to tell of the option, and the default is read. -/
theorem parseArray_addArray {values : List Value} (valued : kind ≠ .flag)
    (survive : ∀ value ∈ values, value.Survives reader base (some flag) kind)
    (defaults : List Value) :
    (Written.addArray [] flag (.list values) kind).fault = none ∧
      ((ofTexts (Written.addArray [] flag (.list values) kind).tokens).parseArray
        reader flag (.list defaults) kind base).1.result =
          .ok (.list (if values.isEmpty then defaults else values)) ∧
      ((ofTexts (Written.addArray [] flag (.list values) kind).tokens).parseArray
        reader flag (.list defaults) kind base).2.remaining = [] := by
  obtain ⟨texts, encoded, decoded⟩ :=
    Value.exists_texts_of_reads (List.forall₂_same.mpr survive)
  have written : Written.addArray [] flag (.list values) kind = { tokens := pairs flag texts } := by
    simp [Written.addArray, valued, Value.items, Written.addItems_encoded valued encoded]
  have tokens : (ofTexts (pairs flag texts)).tokens = [] ++ unmarked (pairs flag texts ++ []) := by
    simp [ofTexts, unmarked]
  have fresh : Spent [] := by simp [Spent]
  obtain ⟨grown, spent, result, left⟩ := collect_pairs flag decoded fresh []
  have consumed : remaining ⟨grown ++ unmarked []⟩ = [] := remaining_spent_append spent []
  have absent : announce flag ∉ remaining ⟨grown ++ unmarked []⟩ := by simp [consumed]
  rw [collect_absent absent] at result left
  rw [written]
  simp only [parseArray, if_neg valued, tokens]
  refine ⟨trivial, ?_, ?_⟩
  · rw [result]
    cases values <;> simp [Attempt.done, Except.map, copyDefault, Value.items]
  · rw [left, consumed]

/-- Texts that are spelled like the announcement, and an empty one. -/
theorem parseArray_addArray_lookalikes :
    ((ofTexts ["-x", "-x", "-x", "", "-x", "-x"]).parseArray
        readObject "x" (.list [.text "d"]) .text none).1.result =
          .ok (.list [.text "-x", .text "", .text "-x"]) ∧
      ((ofTexts ["-x", "-x", "-x", "", "-x", "-x"]).parseArray
        readObject "x" (.list [.text "d"]) .text none).2.remaining = [] := by
  have survives (content : String) :
      (Value.text content).Survives readObject none (some "x") .text := ⟨content, rfl, rfl⟩
  have survive : ∀ value ∈ [Value.text "-x", .text "", .text "-x"],
      value.Survives readObject none (some "x") .text := by simp [survives]
  exact (parseArray_addArray (by decide) survive [.text "d"]).2

/-- Without items nothing is written, so another default than the empty list is read. -/
theorem not_parseArray_addArray_nil :
    (∀ value ∈ ([] : List Value), value.Survives readObject none (some "x") .integer) ∧
      ((ofTexts (Written.addArray [] "x" (.list []) .integer).tokens).parseArray
        readObject "x" (.list [.int 1]) .integer none).1.result ≠ .ok (.list []) := by
  refine ⟨by simp, ?_⟩
  have unwritten : Written.addArray [] "x" (.list []) .integer = { tokens := [] } := rfl
  have absent : announce "x" ∉ remaining ⟨(ofTexts []).tokens⟩ := by decide
  rw [unwritten, parseArray, if_neg (by decide), collect_absent absent]
  simp [Attempt.done, copyDefault, Value.items]

end

end OptionProtocol
