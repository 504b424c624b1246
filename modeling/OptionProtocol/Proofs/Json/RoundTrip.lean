import OptionProtocol.Proofs.Json.Numbers
import OptionProtocol.Proofs.Json.Strings
import OptionProtocol.Proofs.Table

/-! Values that are written as JSON texts and read back: every value comes back as it was, also
with its members in their order. -/

set_option autoImplicit false

namespace OptionProtocol.Json

open Number

variable {rest : List Char} {depth fuel : Nat}

/-- Values that come back as they are: integers are short enough to be written, numbers are finite
and read from their own texts, and the names in an object differ. -/
inductive IsStorable : Json → Prop where
  | null : IsStorable .null
  | bool (value : Bool) : IsStorable (.bool value)
  | int {k : Int} (writable : isWritable k = true) : IsStorable (.int k)
  | float {negative : Bool} {mantissa : Nat} {exponent : Int}
      (again : readFloat? (Binary64.finite negative mantissa exponent).text =
        some (.finite negative mantissa exponent)) :
      IsStorable (.float (.finite negative mantissa exponent))
  | text (value : String) : IsStorable (.text value)
  | array {items : List Json} (each : ∀ item ∈ items, IsStorable item) : IsStorable (.array items)
  | object {members : List (String × Json)} (distinct : (members.map Prod.fst).Nodup)
      (each : ∀ entry ∈ members, IsStorable entry.2) : IsStorable (.object members)

/-- The characters of a printed value. -/
def chars (depth : Nat) (value : Json) : List Char := (printAt depth value).toList

/-- The characters of a line break. -/
def gap (depth : Nat) : List Char := '\n' :: List.replicate (2 * depth) ' '

theorem toList_lineBreak (depth : Nat) : (lineBreak depth).toList = gap depth := by
  simp [lineBreak, gap]

/-! Blanks between values. -/

/-- The text begins with a character with which a value can begin. -/
def Opens (s : List Char) : Prop :=
  ∃ c rest, s = c :: rest ∧ isSpace c = false ∧ c ∉ [']', '\x7d', '\uFEFF']

theorem Opens.append {s : List Char} (opens : Opens s) (rest : List Char) : Opens (s ++ rest) := by
  obtain ⟨c, more, rfl, begins⟩ := opens
  exact ⟨c, more ++ rest, rfl, begins⟩

theorem skipSpace_cons {c : Char} (visible : isSpace c = false) (rest : List Char) :
    skipSpace (c :: rest) = c :: rest :=
  List.dropWhile_cons_of_neg (by simp [visible])

theorem skipSpace_gap (depth : Nat) (rest : List Char) :
    skipSpace (gap depth ++ rest) = skipSpace rest := by
  have blank : ∀ c ∈ gap depth, isSpace c = true := by
    refine List.forall_mem_cons.mpr ⟨rfl, fun c member => ?_⟩
    rw [List.eq_of_mem_replicate member]
    rfl
  exact List.dropWhile_append_of_pos blank

theorem Opens.skipSpace {s : List Char} (opens : Opens s) : skipSpace s = s := by
  obtain ⟨c, more, rfl, visible, _⟩ := opens
  exact skipSpace_cons visible more

/-- The characters of a printed value: all that print, and line feeds. -/
def IsShown (c : Char) : Prop := 0x20 ≤ c.toNat ∨ c = '\n'

/-- The value is read back from its text in front of whatever can follow it. -/
structure Reads (j : Json) : Prop where
  opens : ∀ depth, Opens (chars depth j)
  reads : ∀ depth fuel rest, Follows rest → (chars depth j).length ≤ fuel →
    value fuel (chars depth j ++ rest) = .ok (j, rest)
  printable : ∀ depth, ∀ c ∈ chars depth j, IsShown c

/-- There is enough fuel for the first step, since no value is written without a character. -/
theorem Opens.exists_fuel {s : List Char} (opens : Opens s) (enough : s.length ≤ fuel) :
    ∃ less, fuel = less + 1 := by
  obtain ⟨c, more, rfl, _⟩ := opens
  exact ⟨fuel - 1, (Nat.sub_add_cancel (Nat.lt_of_lt_of_le (by simp) enough)).symm⟩

/-! Words, texts and numbers. -/

/-- The text of a value that is the same everywhere. -/
theorem reads_of_eq {j : Json} {s : List Char} (same : ∀ depth, chars depth j = s) (opens : Opens s)
    (reads : ∀ fuel rest, Follows rest → value (fuel + 1) (s ++ rest) = .ok (j, rest))
    (printable : ∀ c ∈ s, 0x20 ≤ c.toNat) : Reads j where
  opens depth := by rwa [same]
  reads depth fuel rest follows enough := by
    rw [same] at enough ⊢
    obtain ⟨less, rfl⟩ := opens.exists_fuel enough
    exact reads less rest follows
  printable depth c member := by
    rw [same] at member
    exact .inl (printable c member)

theorem reads_null : Reads .null :=
  reads_of_eq (s := ['n', 'u', 'l', 'l']) (fun depth => by simp [chars, printAt])
    ⟨'n', _, rfl, rfl, by decide⟩ (fun fuel rest _ => by simp [value, words]) (by simp)

theorem reads_bool (truth : Bool) : Reads (.bool truth) := by
  cases truth with
  | true =>
    exact reads_of_eq (s := ['t', 'r', 'u', 'e']) (fun depth => by simp [chars, printAt])
      ⟨'t', _, rfl, rfl, by decide⟩ (fun fuel rest _ => by simp [value, words]) (by simp)
  | false =>
    exact reads_of_eq (s := ['f', 'a', 'l', 's', 'e']) (fun depth => by simp [chars, printAt])
      ⟨'f', _, rfl, rfl, by decide⟩ (fun fuel rest _ => by simp [value, words]) (by simp)

theorem reads_text (content : String) : Reads (.text content) := by
  have same (depth : Nat) : chars depth (.text content) = '"' :: (escaped content ++ ['"']) := by
    rw [chars, printAt, toList_stringText]
  refine reads_of_eq same ⟨'"', _, rfl, rfl, by decide⟩ (fun fuel rest _ => ?_) ?_
  · rw [List.cons_append, List.append_assoc]
    simp only [value, List.singleton_append, string_escaped]
    rfl
  · rw [← toList_stringText]
    exact printable_stringText content

/-- The first characters of a number. -/
inductive Numeric : List Char → Prop where
  | digit {c : Char} (digit : c.isDigit = true) (rest : List Char) : Numeric (c :: rest)
  | negative {c : Char} (digit : c.isDigit = true) (rest : List Char) : Numeric ('-' :: c :: rest)

theorem numeric_chars {n : Numeral} (plain : n.IsPlain) (rest : List Char) :
    Numeric (n.chars ++ rest) := by
  obtain ⟨c, more, unsigned, digit⟩ := plain.exists_unsigned
  unfold Numeral.chars
  rw [unsigned]
  split
  · exact .negative digit (more ++ rest)
  · exact .digit digit (more ++ rest)

theorem ne_digit {c d : Char} (digit : c.isDigit = true) (other : d.isDigit = false) : d ≠ c := by
  rintro rfl
  rw [digit] at other
  cases other

theorem Numeric.opens {s : List Char} (numeric : Numeric s) : Opens s := by
  cases numeric with
  | @digit c digit rest =>
    refine ⟨c, rest, rfl, ?_, ?_⟩
    · have apart {d : Char} (other : d.isDigit = false) : c ≠ d := (ne_digit digit other).symm
      simp [isSpace, apart (rfl : ' '.isDigit = false), apart (rfl : '\t'.isDigit = false),
        apart (rfl : '\n'.isDigit = false), apart (rfl : '\r'.isDigit = false)]
    · intro member
      have others : ∀ d ∈ [']', '\x7d', '\uFEFF'], d.isDigit = false := by simp
      exact ne_digit digit (others c member) rfl
  | @negative c digit rest => exact ⟨'-', c :: rest, rfl, rfl, by decide⟩

/-- No word begins with a digit, or with a sign in front of one. -/
theorem Numeric.find?_words {s : List Char} (numeric : Numeric s) :
    words.find? (fun word => word.1.isPrefixOf s) = none := by
  cases numeric with
  | @digit c digit rest =>
    have first : ∀ word ∈ words, ∃ d more, word.1 = d :: more ∧ d.isDigit = false := by
      simp [words]
    refine List.find?_eq_none.mpr fun word member => ?_
    obtain ⟨d, more, begins, other⟩ := first word member
    simp [begins, ne_digit digit other]
  | @negative c digit rest =>
    simp [words, ne_digit digit (by decide : 'I'.isDigit = false)]

theorem value_numeric {s : List Char} (numeric : Numeric s) (fuel : Nat) :
    value (fuel + 1) s = number s := by
  have none := numeric.find?_words
  have other {d : Char} {rest : List Char} (same : s = d :: rest) : d.isDigit = true ∨ d = '-' := by
    cases numeric with
    | digit digit => exact .inl ((List.cons.inj same).1 ▸ digit)
    | negative digit => exact .inr (List.cons.inj same).1.symm
  unfold value
  split
  · rfl
  iterate 3 exact absurd (other rfl) (by decide)
  · rw [none]

theorem reads_numeral {j : Json} {n : Numeral} (plain : n.IsPlain)
    (same : ∀ depth, chars depth j = n.chars)
    (reads : ∀ rest, Follows rest → number (n.chars ++ rest) = .ok (j, rest)) : Reads j := by
  refine reads_of_eq same ?_ (fun fuel rest follows => ?_) fun c member => ?_
  · simpa using (numeric_chars plain []).opens
  · rw [value_numeric (numeric_chars plain rest), reads rest follows]
  · obtain digit | sign := plain.isMark member
    · exact Nat.le_trans (by decide) (Char.isDigit_iff_toNat.mp digit).1
    · have signs : ∀ d ∈ ['-', '+', '.', 'e'], 0x20 ≤ d.toNat := by simp
      exact signs c sign

theorem reads_int {k : Int} (writable : isWritable k = true) : Reads (.int k) :=
  reads_numeral (isPlain_ofInt k) (fun _ => toList_intText k) fun _ => number_ofInt writable

theorem reads_float {negative : Bool} {mantissa : Nat} {exponent : Int}
    (again : readFloat? (Binary64.finite negative mantissa exponent).text =
      some (.finite negative mantissa exponent)) :
    Reads (.float (.finite negative mantissa exponent)) := by
  obtain ⟨n, floating, written, value⟩ := Binary64.exists_numeral_of_readFloat? again
  refine reads_numeral floating.plain (fun depth => ?_) fun rest follows => ?_
  · rw [chars, printAt]
    change (Binary64.finite negative mantissa exponent).text.toList = n.chars
    rw [written, String.toList_ofList]
  · rw [number_floating floating follows, value]

/-! Sequences of parts, each on a line of its own. -/

/-- The parts with a comma behind each but the last. -/
def joined (depth : Nat) (parts : List (List Char)) : List Char :=
  (',' :: gap depth).intercalate parts

theorem joined_cons_cons (first second : List Char) (more : List (List Char)) :
    joined depth (first :: second :: more) =
      first ++ (',' :: (gap depth ++ joined depth (second :: more))) := by
  simp [joined, List.intercalate_cons_cons]

theorem toList_block (opening closing : String) {parts : List String} (filled : parts ≠ []) :
    (block opening closing depth parts).toList = opening.toList ++ (gap (depth + 1) ++
      (joined (depth + 1) (parts.map String.toList) ++ (gap depth ++ closing.toList))) := by
  have some_ : parts.isEmpty = false := by simpa using filled
  simp [block, some_, joined, toList_lineBreak, String.toList_intercalate]

theorem follows_gap (depth : Nat) (rest : List Char) : Follows (gap depth ++ rest) := by
  intro c first
  rw [gap, List.cons_append, List.head?_cons] at first
  exact .inr (Option.some.inj first).symm

theorem follows_comma (rest : List Char) : Follows (',' :: rest) := by
  intro c first
  exact .inl (Option.some.inj first).symm

theorem opens_joined {parts : List (List Char)} (filled : parts ≠ [])
    (opens : ∀ part ∈ parts, Opens part) : Opens (joined depth parts) := by
  cases parts with
  | nil => exact absurd rfl filled
  | cons first more =>
    have here := opens first List.mem_cons_self
    cases more with
    | nil => simpa [joined] using here
    | cons second more =>
      rw [joined_cons_cons]
      exact here.append _

section Steps

variable {s behind after tail : List Char} {item : Json} {more : List Json} {name : String}
  {others : List (String × Json)}

theorem items_last (read : value fuel s = .ok (item, behind))
    (closed : skipSpace behind = ']' :: rest) : items (fuel + 1) s = .ok ([item], rest) := by
  simp [items, read, closed, bind, Except.bind, pure, Except.pure]

theorem items_more (read : value fuel s = .ok (item, behind))
    (comma : skipSpace behind = ',' :: after)
    (later : items fuel (skipSpace after) = .ok (more, rest)) :
    items (fuel + 1) s = .ok (item :: more, rest) := by
  simp [items, read, comma, later, bind, Except.bind, pure, Except.pure]

theorem value_array (opens : Opens s) (blank : skipSpace behind = s)
    (read : items fuel s = .ok (more, rest)) :
    value (fuel + 1) ('[' :: behind) = .ok (.array more, rest) := by
  obtain ⟨c, tail, rfl, _, other⟩ := opens
  have open_ : c ≠ ']' := by simp_all
  simp [value, blank, read, open_, bind, Except.bind, pure, Except.pure]

theorem value_object (opens : Opens s) (blank : skipSpace behind = s)
    (read : members fuel s = .ok (others, rest)) :
    value (fuel + 1) ('\x7b' :: behind) = .ok (.object (putAll [] others), rest) := by
  obtain ⟨c, tail, rfl, _, other⟩ := opens
  have open_ : c ≠ '\x7d' := by simp_all
  simp [value, blank, read, open_, bind, Except.bind, pure, Except.pure]

theorem members_last (named : string s = .ok (name, after)) (colon : skipSpace after = ':' :: tail)
    (read : value fuel (skipSpace tail) = .ok (item, behind))
    (closed : skipSpace behind = '\x7d' :: rest) :
    members (fuel + 1) ('"' :: s) = .ok ([(name, item)], rest) := by
  simp [members, named, colon, read, closed, bind, Except.bind, pure, Except.pure]

theorem members_more {next : List Char} (named : string s = .ok (name, after))
    (colon : skipSpace after = ':' :: tail)
    (read : value fuel (skipSpace tail) = .ok (item, behind))
    (comma : skipSpace behind = ',' :: next)
    (later : members fuel (skipSpace next) = .ok (others, rest)) :
    members (fuel + 1) ('"' :: s) = .ok ((name, item) :: others, rest) := by
  simp [members, named, colon, read, comma, later, bind, Except.bind, pure, Except.pure]

end Steps

theorem items_joined {items : List Json} (outer : Nat) (filled : items ≠ [])
    (each : ∀ item ∈ items, Reads item)
    (enough : (joined depth (items.map (chars depth))).length < fuel) :
    Json.items fuel (joined depth (items.map (chars depth)) ++ (gap outer ++ ']' :: rest)) =
      .ok (items, rest) := by
  -- Each item takes one unit of the fuel, and at least one character.
  induction items generalizing fuel with
  | nil => exact absurd rfl filled
  | cons item more ih =>
    obtain ⟨here, each⟩ := List.forall_mem_cons.mp each
    obtain ⟨less, rfl⟩ := Nat.exists_eq_add_one.mpr (Nat.zero_lt_of_lt enough)
    cases more with
    | nil =>
      have only : joined depth [chars depth item] = chars depth item := by simp [joined]
      rw [List.map_singleton, only] at enough ⊢
      refine items_last (here.reads depth less _ (follows_gap _ _) (Nat.le_of_lt_succ enough)) ?_
      rw [skipSpace_gap, skipSpace_cons rfl]
    | cons second more =>
      have opens : Opens (joined depth ((second :: more).map (chars depth))) :=
        opens_joined (by simp) (List.forall_mem_map.mpr fun j member => (each j member).opens depth)
      rw [List.map_cons, List.map_cons, joined_cons_cons] at enough ⊢
      rw [List.length_append, List.length_cons, List.length_append] at enough
      rw [List.append_assoc, List.cons_append, List.append_assoc]
      refine items_more (here.reads depth less _ (follows_comma _) (by omega))
        (skipSpace_cons rfl _) ?_
      rw [skipSpace_gap, ← List.map_cons, (opens.append _).skipSpace]
      exact ih (by simp) each (by rw [List.map_cons]; omega)

/-- The characters of a member. -/
def entryChars (depth : Nat) (entry : String × Json) : List Char :=
  '"' :: (escaped entry.1 ++ '"' :: ':' :: ' ' :: chars depth entry.2)

theorem opens_entryChars (depth : Nat) (entry : String × Json) : Opens (entryChars depth entry) :=
  ⟨'"', _, rfl, rfl, by decide⟩

theorem members_joined {members : List (String × Json)} (outer : Nat) (filled : members ≠ [])
    (each : ∀ entry ∈ members, Reads entry.2)
    (enough : (joined depth (members.map (entryChars depth))).length < fuel) :
    Json.members fuel
        (joined depth (members.map (entryChars depth)) ++ (gap outer ++ '\x7d' :: rest)) =
      .ok (members, rest) := by
  induction members generalizing fuel with
  | nil => exact absurd rfl filled
  | cons entry more ih =>
    obtain ⟨here, each⟩ := List.forall_mem_cons.mp each
    obtain ⟨less, rfl⟩ := Nat.exists_eq_add_one.mpr (Nat.zero_lt_of_lt enough)
    have fits : (chars depth entry.2).length < (entryChars depth entry).length := by
      simp only [entryChars, List.length_cons, List.length_append]
      omega
    have named (behind : List Char) :=
      string_escaped entry.1 (':' :: ' ' :: (chars depth entry.2 ++ behind))
    have read {behind : List Char} (follows : Follows behind)
        (enough : (entryChars depth entry).length ≤ less + 1) :
        value less (skipSpace (' ' :: (chars depth entry.2 ++ behind))) =
          .ok (entry.2, behind) := by
      have blank : skipSpace (' ' :: (chars depth entry.2 ++ behind)) =
          chars depth entry.2 ++ behind := ((here.opens depth).append behind).skipSpace
      rw [blank]
      exact here.reads depth less behind follows (by omega)
    cases more with
    | nil =>
      have only : joined depth [entryChars depth entry] = entryChars depth entry := by simp [joined]
      rw [List.map_singleton, only] at enough ⊢
      simp only [entryChars, List.cons_append, List.append_assoc]
      refine members_last (named _) (skipSpace_cons rfl _)
        (read (follows_gap _ _) (Nat.le_of_lt enough)) ?_
      rw [skipSpace_gap, skipSpace_cons rfl]
    | cons second more =>
      have opens : Opens (joined depth ((second :: more).map (entryChars depth))) :=
        opens_joined (by simp) (List.forall_mem_map.mpr fun other _ => opens_entryChars depth other)
      rw [List.map_cons, List.map_cons, joined_cons_cons] at enough ⊢
      rw [List.length_append, List.length_cons, List.length_append] at enough
      rw [List.append_assoc, List.cons_append, List.append_assoc, ← List.map_cons]
      simp only [entryChars, List.cons_append, List.append_assoc]
      refine members_more (named _) (skipSpace_cons rfl _) (read (follows_comma _) (by omega))
        (skipSpace_cons rfl _) ?_
      rw [skipSpace_gap, (opens.append _).skipSpace]
      exact ih (by simp) each (by rw [List.map_cons]; omega)

theorem printItems_eq (depth : Nat) (items : List Json) :
    printItems depth items = items.map (printAt depth) := by
  induction items with
  | nil => rfl
  | cons item rest ih => rw [printItems, ih, List.map_cons]

theorem printMembers_eq (depth : Nat) (members : List (String × Json)) :
    (printMembers depth members).map String.toList = members.map (entryChars depth) := by
  induction members with
  | nil => rfl
  | cons entry rest ih =>
    rw [printMembers, List.map_cons, ih, List.map_cons]
    simp [entryChars, toList_stringText, chars]

theorem isShown_gap (depth : Nat) : ∀ c ∈ gap depth, IsShown c := by
  refine List.forall_mem_cons.mpr ⟨.inr rfl, fun c member => ?_⟩
  rw [List.eq_of_mem_replicate member]
  exact .inl (by decide)

theorem isShown_joined {parts : List (List Char)} (each : ∀ part ∈ parts, ∀ c ∈ part, IsShown c) :
    ∀ c ∈ joined depth parts, IsShown c := by
  induction parts with
  | nil => simp [joined]
  | cons first more ih =>
    obtain ⟨here, each⟩ := List.forall_mem_cons.mp each
    cases more with
    | nil => simpa [joined] using here
    | cons second more =>
      rw [joined_cons_cons]
      refine List.forall_mem_append.mpr ⟨here, List.forall_mem_cons.mpr ⟨.inl (by decide), ?_⟩⟩
      exact List.forall_mem_append.mpr ⟨isShown_gap depth, ih each⟩

/-- A value whose parts stand on lines of their own between two brackets. -/
theorem reads_block {j : Json} (opening closing : Char) (parts : Nat → List (List Char))
    (begins : isSpace opening = false ∧ opening ∉ [']', '\x7d', '\uFEFF'])
    (printable : 0x20 ≤ opening.toNat ∧ 0x20 ≤ closing.toNat)
    (shown : ∀ depth, ∀ part ∈ parts depth, ∀ c ∈ part, IsShown c)
    (written : ∀ depth, chars depth j = opening :: (gap (depth + 1) ++
      (joined (depth + 1) (parts (depth + 1)) ++ (gap depth ++ [closing]))))
    (read : ∀ depth outer fuel rest, (joined depth (parts depth)).length < fuel →
      value (fuel + 1) (opening :: (gap depth ++ (joined depth (parts depth) ++
        (gap outer ++ closing :: rest)))) = .ok (j, rest)) : Reads j where
  opens depth := by
    rw [written]
    exact ⟨opening, _, rfl, begins⟩
  reads depth fuel rest follows enough := by
    rw [written] at enough ⊢
    simp only [List.length_cons, List.length_append] at enough
    obtain ⟨less, rfl⟩ := Nat.exists_eq_add_one.mpr (Nat.lt_of_lt_of_le (Nat.succ_pos _) enough)
    simp only [List.cons_append, List.append_assoc]
    exact read (depth + 1) depth less rest (by omega)
  printable depth := by
    rw [written]
    have last : ∀ c ∈ gap depth ++ [closing], IsShown c :=
      List.forall_mem_append.mpr
        ⟨isShown_gap depth, List.forall_mem_singleton.mpr (.inl printable.2)⟩
    refine List.forall_mem_cons.mpr ⟨.inl printable.1, ?_⟩
    refine List.forall_mem_append.mpr ⟨isShown_gap (depth + 1), ?_⟩
    exact List.forall_mem_append.mpr ⟨isShown_joined (shown (depth + 1)), last⟩

theorem reads_array {items : List Json} (each : ∀ item ∈ items, Reads item) :
    Reads (.array items) := by
  by_cases filled : items = []
  · subst filled
    exact reads_of_eq (s := ['[', ']']) (fun depth => by simp [chars, printAt, printItems, block])
      ⟨'[', _, rfl, rfl, by decide⟩ (fun fuel rest _ => by simp [value, skipSpace, isSpace])
      (by simp)
  · refine reads_block '[' ']' (fun depth => items.map (chars depth)) ⟨rfl, by decide⟩ (by decide)
      (fun depth => ?_) (fun depth => ?_) fun depth outer fuel rest enough => ?_
    · exact List.forall_mem_map.mpr fun j member => (each j member).printable depth
    · rw [chars, printAt, printItems_eq, toList_block _ _ (by simpa using filled), List.map_map]
      rfl
    · have opens : Opens (joined depth (items.map (chars depth))) :=
        opens_joined (by simpa using filled)
          (List.forall_mem_map.mpr fun j member => (each j member).opens depth)
      refine value_array (opens.append _) ?_ (items_joined outer filled each enough)
      rw [skipSpace_gap, (opens.append _).skipSpace]

theorem isShown_entryChars (entry : String × Json) (here : Reads entry.2) :
    ∀ c ∈ entryChars depth entry, IsShown c := by
  have name : ∀ c ∈ '"' :: (escaped entry.1 ++ ['"']), IsShown c := by
    rw [← toList_stringText]
    exact fun c member => .inl (printable_stringText entry.1 c member)
  have split : entryChars depth entry =
      '"' :: (escaped entry.1 ++ ['"']) ++ (':' :: ' ' :: chars depth entry.2) := by
    simp [entryChars]
  rw [split]
  refine List.forall_mem_append.mpr ⟨name, List.forall_mem_cons.mpr ⟨.inl (by decide), ?_⟩⟩
  exact List.forall_mem_cons.mpr ⟨.inl (by decide), here.printable depth⟩

theorem reads_object {members : List (String × Json)} (distinct : (members.map Prod.fst).Nodup)
    (each : ∀ entry ∈ members, Reads entry.2) : Reads (.object members) := by
  by_cases filled : members = []
  · subst filled
    exact reads_of_eq (s := ['\x7b', '\x7d'])
      (fun depth => by simp [chars, printAt, printMembers, block]) ⟨'\x7b', _, rfl, rfl, by decide⟩
      (fun fuel rest _ => by simp [value, skipSpace, isSpace]) (by simp)
  · refine reads_block '\x7b' '\x7d' (fun depth => members.map (entryChars depth))
      ⟨rfl, by decide⟩ (by decide) (fun depth => ?_) (fun depth => ?_)
      fun depth outer fuel rest enough => ?_
    · refine List.forall_mem_map.mpr fun entry member => ?_
      exact isShown_entryChars entry (each entry member)
    · have parts : printMembers (depth + 1) members ≠ [] := by
        intro none
        have same := printMembers_eq (depth + 1) members
        rw [none] at same
        exact filled (List.map_eq_nil_iff.mp same.symm)
      rw [chars, printAt, toList_block _ _ parts, printMembers_eq]
      rfl
    · have opens : Opens (joined depth (members.map (entryChars depth))) :=
        opens_joined (by simpa using filled)
          (List.forall_mem_map.mpr fun entry _ => opens_entryChars depth entry)
      have all : putAll [] members = members := Table.putAll_eq_append distinct
      have blank : skipSpace (gap depth ++ (joined depth (members.map (entryChars depth)) ++
          (gap outer ++ '\x7d' :: rest))) =
            joined depth (members.map (entryChars depth)) ++ (gap outer ++ '\x7d' :: rest) := by
        rw [skipSpace_gap, (opens.append _).skipSpace]
      rw [value_object (opens.append _) blank (members_joined outer filled each enough), all]

/-- What can be stored is read back wherever it stands. -/
theorem IsStorable.reads {j : Json} (storable : IsStorable j) : Reads j := by
  induction storable with
  | null => exact reads_null
  | bool value => exact reads_bool value
  | int writable => exact reads_int writable
  | float again => exact reads_float again
  | text value => exact reads_text value
  | array each ih => exact reads_array ih
  | object distinct each ih => exact reads_object distinct ih

/-- What is read from the text of a value is the value. -/
theorem parse_print {j : Json} (storable : IsStorable j) : parse j.print = .ok j := by
  have reads := storable.reads
  have opens : Opens (chars 0 j) := reads.opens 0
  have read : value ((chars 0 j).length + 1) (chars 0 j) = .ok (j, []) := by
    simpa using reads.reads 0 _ [] (by simp [Follows]) (Nat.le_succ _)
  have first : (chars 0 j).head? ≠ some '\uFEFF' := by
    obtain ⟨c, more, written, _, other⟩ := opens
    rw [written, List.head?_cons]
    rintro ⟨⟩
    exact other (by simp)
  have document : document j.print.toList = .ok j := by
    change Json.document (chars 0 j) = .ok j
    unfold Json.document
    rw [if_neg first, opens.skipSpace]
    dsimp only
    rw [read]
    rfl
  unfold parse
  dsimp only
  rw [document]

/-- All characters of a printed value print, but for line feeds. -/
theorem isShown_print {j : Json} (storable : IsStorable j) : ∀ c ∈ j.print.toList, IsShown c :=
  storable.reads.printable 0

end OptionProtocol.Json
