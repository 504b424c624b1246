import OptionProtocol.Proofs.Definition.WellFormed
import OptionProtocol.Proofs.Text.Pieces
import OptionProtocol.Proofs.Text.Spelling

/-! The texts that name types. What is read is what a grammar says that does without the order in
which the reader takes brackets off, and a type is named by its own text too. -/

set_option autoImplicit false

namespace OptionProtocol

open Text (IsCommon isBlank trim)

/-- The text has nothing but blanks around its core. -/
def Text.Padded (core s : List Char) : Prop :=
  ∃ front back, s = front ++ core ++ back ∧ (∀ c ∈ front, isBlank c = true) ∧
    ∀ c ∈ back, isBlank c = true

/-- How an element is written: an alias of a kind in any case, or the name of a class. -/
inductive ElementType.Spelled : ElementType → List Char → Prop where
  | scalar {word : String} {kind : Kind} {s : List Char}
      (listed : (word, kind) ∈ OptionType.aliases) (same : s.map Char.toLower = word.toList) :
      Spelled (.scalar kind) s
  | object {name : String} (dotted : OptionType.IsClassName name) :
      Spelled (.object name) name.toList

/-- How a type is written, with blanks at both ends of every part. -/
inductive OptionType.Spelled : OptionType → List Char → Prop where
  | element {element : ElementType} {core s : List Char} (spelled : element.Spelled core)
      (outer : Text.Padded core s) : Spelled { element } s
  | suffixed {element : ElementType} {core items s : List Char} (spelled : element.Spelled core)
      (valued : element.kind ≠ .flag) (inner : Text.Padded core items)
      (outer : Text.Padded (items ++ ['[', ']']) s) : Spelled { element, isArray := true } s
  | listed {element : ElementType} {word core items s : List Char} (spelled : element.Spelled core)
      (valued : element.kind ≠ .flag) (inner : Text.Padded core items)
      (list : word.map Char.toLower = arrayWord) (outer : Text.Padded (word ++ items ++ [']']) s) :
      Spelled { element, isArray := true } s

namespace Text

variable {core s : List Char}

theorem Padded.refl (core : List Char) : Padded core core := ⟨[], [], by simp⟩

theorem Padded.trans {inner : List Char} (first : Padded inner core) (second : Padded core s) :
    Padded inner s := by
  obtain ⟨front, back, rfl, fronts, backs⟩ := first
  obtain ⟨before, behind, rfl, befores, behinds⟩ := second
  refine ⟨before ++ front, back ++ behind, by simp, fun c member => ?_, fun c member => ?_⟩
  · exact (List.mem_append.mp member).elim (befores c) (fronts c)
  · exact (List.mem_append.mp member).elim (backs c) (behinds c)

theorem padded_trim (s : List Char) : Padded (trim isBlank s) s := exists_trim isBlank s

theorem Padded.trim_eq (outer : Padded core s) (filled : core ≠ [])
    (trimmed : IsTrimmed isBlank core) : trim isBlank s = core := by
  obtain ⟨front, back, rfl, fronts, backs⟩ := outer
  have start : trimStart isBlank (front ++ core ++ back) = core ++ back := by
    rw [trimStart, List.append_assoc, List.dropWhile_append_of_pos fronts]
    obtain ⟨c, core, rfl⟩ := List.exists_cons_of_ne_nil filled
    exact dropWhile_eq_self fun d first => trimmed.first d first
  have back' : ∀ c ∈ back.reverse, isBlank c = true := by simpa using backs
  rw [trim, start, trimEnd, List.reverse_append, List.dropWhile_append_of_pos back',
    dropWhile_eq_self, List.reverse_reverse]
  intro c last
  exact trimmed.last c (by rwa [List.head?_reverse] at last)

end Text

/-- A character of the names of elements. -/
def isNamePart (c : Char) : Bool := c.isAlphanum || c == '_' || c == '.'

theorem isCommon_of_isNamePart {c : Char} (part : isNamePart c = true) : IsCommon c := by
  simp only [isNamePart, Bool.or_eq_true, beq_iff_eq] at part
  obtain (alphanum | rfl) | rfl := part
  · exact .of_isAlphanum alphanum
  · unfold IsCommon; decide
  · unfold IsCommon; decide

theorem isBlank_of_isNamePart {c : Char} (part : isNamePart c = true) : isBlank c = false := by
  have table : ∀ n < 0x80, isNamePart (Char.ofNat n) = true → isBlank (Char.ofNat n) = false := by
    decide +kernel
  exact IsCommon.forall_of_table (p := fun c => isNamePart c = true → isBlank c = false) table
    (isCommon_of_isNamePart part) part

theorem isAlpha_of_isAlpha_toLower {c : Char} (letter : c.toLower.isAlpha = true) :
    c.isAlpha = true := by
  have table : ∀ n < 0x80, (Char.ofNat n).toLower.isAlpha = true → (Char.ofNat n).isAlpha = true := by
    decide +kernel
  have common : IsCommon c :=
    Text.isCommon_of_toLower (.of_isAlphanum (by simp [Char.isAlphanum, letter]))
  exact common.forall_of_table (p := fun c => c.toLower.isAlpha = true → c.isAlpha = true) table letter

theorem mem_intercalate {parts : List String} {c : Char}
    (member : c ∈ (".".intercalate parts).toList) : c = '.' ∨ ∃ part ∈ parts, c ∈ part.toList := by
  induction parts with
  | nil => simp at member
  | cons part parts ih =>
    cases parts with
    | nil => exact .inr ⟨part, by simp, by simpa using member⟩
    | cons next parts =>
      rw [String.intercalate_cons_cons, String.toList_append, String.toList_append] at member
      simp only [List.append_assoc, List.mem_append] at member
      obtain here | dot | later := member
      · exact .inr ⟨part, by simp, here⟩
      · exact .inl (by simpa using dot)
      · exact (ih later).imp_right fun ⟨other, inside, found⟩ =>
          ⟨other, List.mem_cons_of_mem part inside, found⟩

theorem OptionType.chars_of_isAsciiIdentifier {s : List Char} (plain : isAsciiIdentifier s = true) :
    s ≠ [] ∧ ∀ c ∈ s, c.isAlphanum = true ∨ c = '_' := by
  cases s with
  | nil => cases plain
  | cons first rest =>
    simp only [isAsciiIdentifier, Bool.and_eq_true, Bool.or_eq_true, beq_iff_eq,
      List.all_eq_true] at plain
    refine ⟨by simp, List.forall_mem_cons.mpr ⟨?_, plain.2⟩⟩
    exact plain.1.imp_left fun letter => by simp [Char.isAlphanum, letter]

theorem OptionType.isAlpha_of_alias {word : String} {kind : Kind}
    (listed : (word, kind) ∈ aliases) {c : Char} (member : c ∈ word.toList) : c.isAlpha = true := by
  have letters : ∀ entry ∈ aliases, entry.1.toList.all Char.isAlpha = true := by decide
  exact List.all_eq_true.mp (letters _ listed) c member

theorem OptionType.IsClassName.dot_mem {name : String} (dotted : IsClassName name) :
    '.' ∈ name.toList := by
  obtain ⟨parts, some, _, rfl⟩ := dotted
  match parts, some with
  | first :: second :: more, _ => simp [String.intercalate_cons_cons]

namespace ElementType

variable {element : ElementType} {core : List Char}

theorem Spelled.isNamePart (spelled : element.Spelled core) : ∀ c ∈ core, isNamePart c = true := by
  cases spelled with
  | scalar listed same =>
    intro c member
    have inside := OptionType.isAlpha_of_alias listed (same ▸ List.mem_map_of_mem member)
    simp [OptionProtocol.isNamePart, Char.isAlphanum, isAlpha_of_isAlpha_toLower inside]
  | object dotted =>
    obtain ⟨parts, _, plain, rfl⟩ := dotted
    intro c member
    obtain rfl | ⟨part, inside, member⟩ := mem_intercalate member
    · rfl
    · have letters := OptionType.chars_of_isAsciiIdentifier (plain part inside)
      simp [OptionProtocol.isNamePart, letters.2 c member]

theorem Spelled.ne_nil (spelled : element.Spelled core) : core ≠ [] := by
  cases spelled with
  | scalar listed same =>
    have filled : ∀ entry ∈ OptionType.aliases, entry.1.toList ≠ [] := by decide
    rintro rfl
    exact filled _ listed same.symm
  | object dotted =>
    exact List.ne_nil_of_mem dotted.dot_mem

theorem Spelled.isTrimmed (spelled : element.Spelled core) : Text.IsTrimmed isBlank core where
  first c first := isBlank_of_isNamePart (spelled.isNamePart c (List.mem_of_head? first))
  last c last := isBlank_of_isNamePart (spelled.isNamePart c (List.mem_of_getLast? last))

theorem Spelled.bracket_not_mem (spelled : element.Spelled core) {items : List Char}
    (inner : Text.Padded core items) : '[' ∉ items := by
  obtain ⟨front, back, rfl, fronts, backs⟩ := inner
  have kept : isBlank '[' = false := by decide
  simp only [List.mem_append, not_or]
  refine ⟨⟨fun before => ?_, fun inside => ?_⟩, fun behind => ?_⟩
  · cases kept.symm.trans (fronts _ before)
  · cases spelled.isNamePart _ inside
  · cases kept.symm.trans (backs _ behind)

end ElementType

namespace OptionType

theorem isPlainWord_arrayWord : Text.IsPlainWord arrayWord := by
  have common : arrayWord.all (fun c => c.toNat < 0x80) = true := by decide
  refine ⟨fun c member => ?_, by decide, by decide⟩
  simpa [IsCommon] using List.all_eq_true.mp common c member

theorem isPlainWord_alias {word : String} {kind : Kind} (listed : (word, kind) ∈ aliases) :
    Text.IsPlainWord word.toList := by
  have noKelvin : ∀ entry ∈ aliases, 'k' ∉ entry.1.toList := by decide
  have noDotted : ∀ entry ∈ aliases, 'i' ∉ entry.1.toList.getLast? := by decide
  refine ⟨fun c member => .of_isAlphanum ?_, noKelvin _ listed, noDotted _ listed⟩
  simp [Char.isAlphanum, isAlpha_of_alias listed member]

/-! The brackets around items. -/

section

variable {s items word : List Char}

theorem itemText?_eq (s : List Char) :
    itemText? s =
      if ['[', ']'] <:+ s then some (s.take (s.length - 2))
      else if arrayWord <+: Text.lower s ∧ [']'] <:+ s then some ((s.drop 5).dropLast)
      else none := by
  simp only [itemText?, Bool.and_eq_true, List.isSuffixOf_iff_suffix, List.isPrefixOf_iff_prefix]
  rfl

theorem itemText?_of_last (other : s.getLast? ≠ some ']') : itemText? s = none := by
  have noSuffix : ¬[']'] <:+ s := by
    rintro ⟨before, rfl⟩
    exact other List.getLast?_concat
  have noPair : ¬['[', ']'] <:+ s :=
    fun pair => noSuffix ((List.suffix_append ['['] [']']).trans pair)
  rw [itemText?_eq, if_neg noPair, if_neg fun both => noSuffix both.2]

theorem itemText?_suffixed (items : List Char) : itemText? (items ++ ['[', ']']) = some items := by
  rw [itemText?_eq, if_pos (List.suffix_append _ _)]
  simp

theorem itemText?_listed (list : word.map Char.toLower = arrayWord) {last : Char}
    (ends : last ∈ items.getLast?) (other : last ≠ '[') :
    itemText? (word ++ items ++ [']']) = some items := by
  have common (c : Char) (member : c ∈ word) : IsCommon c := by
    refine Text.isCommon_of_toLower (isPlainWord_arrayWord.common _ ?_)
    exact list ▸ List.mem_map_of_mem member
  have length : word.length = 5 := by simpa [arrayWord] using congrArg List.length list
  have noSuffix : ¬['[', ']'] <:+ word ++ items ++ [']'] := by
    rintro ⟨front, same⟩
    obtain ⟨before, rfl⟩ := List.getLast?_eq_some_iff.mp ends
    have cut : (front ++ ['[']) ++ [']'] = (word ++ before ++ [last]) ++ [']'] := by
      simpa using same
    have lasts := congrArg List.getLast? (List.append_cancel_right cut)
    rw [List.getLast?_concat, List.getLast?_concat] at lasts
    exact other (Option.some.inj lasts).symm
  have starts : arrayWord <+: Text.lower (word ++ items ++ [']']) := by
    rw [Text.lower, List.append_assoc, Text.lowerAfter_append common, list]
    exact List.prefix_append _ _
  rw [itemText?_eq, if_neg noSuffix, if_pos ⟨starts, List.suffix_append _ _⟩, List.append_assoc,
    List.drop_left' length]
  simp

/-- The two ways to write an array. -/
theorem itemText?_cases (found : itemText? s = some items) :
    s = items ++ ['[', ']'] ∨
      ∃ word, word.map Char.toLower = arrayWord ∧ s = word ++ items ++ [']'] := by
  rw [itemText?_eq] at found
  split at found
  · rename_i suffix
    obtain ⟨front, rfl⟩ := suffix
    left
    simpa using found
  · split at found
    · rename_i both
      obtain ⟨⟨more, starts⟩, ⟨before, ends⟩⟩ := both
      obtain ⟨front, back, _, rfl, list, _⟩ :=
        Text.exists_front_of_lowerAfter isPlainWord_arrayWord starts.symm
      have length : front.length = 5 := by simpa [arrayWord] using congrArg List.length list
      refine .inr ⟨front, list, ?_⟩
      rw [List.drop_left' length, Option.some.injEq] at found
      rcases List.eq_nil_or_concat back with rfl | ⟨inside, last, rfl⟩
      · -- The word itself does not end with the bracket that closes.
        rw [List.append_nil] at ends
        rw [← ends, List.map_append] at list
        have lasts := congrArg List.getLast? list
        simp [arrayWord] at lasts
      · rw [List.concat_eq_append] at ends found ⊢
        rw [← List.append_assoc] at ends ⊢
        obtain ⟨_, closes⟩ := List.append_inj' ends rfl
        rw [← found, List.dropLast_concat, closes]
    · cases found

end

/-! Reading what the grammar allows. -/

theorem nodup_aliases : (aliases.map Prod.fst).Nodup := by decide

theorem isClassName_toList {name : String} (dotted : IsClassName name) :
    isClassName name.toList = true := by
  obtain ⟨parts, some, plain, rfl⟩ := dotted
  have kept (part : String) (inside : part ∈ parts) : '.' ∉ part.toList := by
    intro dot
    obtain alphanum | line := (chars_of_isAsciiIdentifier (plain part inside)).2 '.' dot
    · cases alphanum
    · cases line
  have pieces := Text.pieces_intercalate (List.ne_nil_of_length_pos (by omega)) kept
  change Text.pieces '.' (".".intercalate parts) = parts at pieces
  have length := congrArg List.length pieces
  rw [Text.pieces, List.length_map] at length
  simp only [isClassName, Bool.and_eq_true, decide_eq_true_eq, List.all_eq_true]
  refine ⟨by omega, fun piece inside => ?_⟩
  have listed : String.ofList piece ∈ parts := by
    rw [← pieces]
    exact List.mem_map_of_mem inside
  simpa using plain _ listed

theorem lookup_className {name : String} (dotted : IsClassName name) :
    aliases.lookup (String.ofList (Text.lower name.toList)) = none := by
  have common (c : Char) (inside : c ∈ name.toList) : IsCommon c :=
    isCommon_of_isNamePart ((ElementType.Spelled.object dotted).isNamePart c inside)
  rw [Text.lower_common common]
  cases found : aliases.lookup (String.ofList (name.toList.map Char.toLower)) with
  | none => rfl
  | some kind =>
    have table : ∀ entry ∈ aliases, '.' ∉ entry.1.toList := by decide
    have member := table _ (Table.mem_of_lookup found)
    rw [String.toList_ofList] at member
    exact absurd (List.mem_map.mpr ⟨'.', dotted.dot_mem, rfl⟩) member

variable {element : ElementType} {core items s : List Char}

theorem read_element (spelled : element.Spelled core) (outer : Text.Padded core s) :
    read s = .ok { element } := by
  have trimmed := outer.trim_eq spelled.ne_nil spelled.isTrimmed
  have noItems : itemText? core = none := by
    refine itemText?_of_last fun last => ?_
    cases spelled.isNamePart _ (List.mem_of_getLast? last)
  rw [read]
  simp only [trimmed, List.isEmpty_iff, spelled.ne_nil, if_false]
  split
  · rename_i found
    rw [trimmed, noItems] at found
    cases found
  · cases spelled with
    | scalar listed same =>
      have common (c : Char) (inside : c ∈ core) : IsCommon c :=
        isCommon_of_isNamePart ((ElementType.Spelled.scalar listed same).isNamePart c inside)
      rw [Text.lower_common common, same, String.ofList_toList,
        Table.lookup_of_mem nodup_aliases listed]
    | object dotted =>
      simp only [lookup_className dotted, isClassName_toList dotted, if_true, String.ofList_toList]

theorem read_array (found : itemText? (trim isBlank s) = some items)
    (inner : Text.Padded core items) (spelled : element.Spelled core)
    (valued : element.kind ≠ .flag) : read s = .ok { element, isArray := true } := by
  have filled : trim isBlank s ≠ [] := by
    intro empty
    have shorter := length_itemText? found
    simp [empty] at shorter
  have inside : trim isBlank items = core := inner.trim_eq spelled.ne_nil spelled.isTrimmed
  rw [read]
  simp only [List.isEmpty_iff, filled, if_false]
  split
  · rename_i other again
    obtain rfl : items = other := Option.some.inj (found.symm.trans again)
    simp [inside, read_element spelled (.refl core), valued]
  · rename_i none
    rw [found] at none
    cases none

theorem isTrimmed_closed {front : List Char} {first : Char} (starts : first ∈ front.head?)
    (letter : isNamePart first = true) (back : List Char) :
    Text.IsTrimmed isBlank (front ++ back ++ [']']) := by
  obtain ⟨more, rfl⟩ := List.head?_eq_some_iff.mp starts
  constructor
  · intro c same
    obtain rfl := Option.some.inj same
    exact isBlank_of_isNamePart letter
  · intro c same
    rw [List.getLast?_concat] at same
    obtain rfl := Option.some.inj same
    decide

theorem Spelled.read_eq {type : OptionType} (spelled : type.Spelled s) : read s = .ok type := by
  cases spelled with
  | element spelled outer => exact read_element spelled outer
  | @suffixed element core items _ spelled valued inner outer =>
    -- The blanks before the items go with those around the whole.
    obtain ⟨front, back, rfl, fronts, backs⟩ := inner
    have closer : Text.Padded (core ++ back ++ ['[', ']']) s :=
      Text.Padded.trans ⟨front, [], by simp, fronts, by simp⟩ outer
    have starts := List.head?_eq_some_head spelled.ne_nil
    have letter := spelled.isNamePart _ (List.mem_of_head? starts)
    have trimmed := isTrimmed_closed starts letter (back ++ ['['])
    rw [← List.append_assoc, List.append_assoc] at trimmed
    have whole := closer.trim_eq (by simp) trimmed
    exact read_array (by rw [whole, itemText?_suffixed]) ⟨[], back, by simp, by simp, backs⟩
      spelled valued
  | @listed element word core items _ spelled valued inner list outer =>
    obtain ⟨first, more, rfl⟩ : ∃ first more, word = first :: more :=
      List.exists_cons_of_ne_nil (by rintro rfl; cases list)
    have letter : first.isAlpha = true := by
      apply isAlpha_of_isAlpha_toLower
      rw [(List.cons.inj list).1]
      decide
    have part : isNamePart first = true := by simp [isNamePart, Char.isAlphanum, letter]
    have trimmed : Text.IsTrimmed isBlank (first :: more ++ items ++ [']']) :=
      isTrimmed_closed rfl part items
    have whole := outer.trim_eq (by simp) trimmed
    obtain ⟨last, ends⟩ : ∃ last, last ∈ items.getLast? := by
      obtain ⟨front, back, rfl, _⟩ := inner
      exact ⟨_, List.getLast?_eq_some_getLast (by simp [spelled.ne_nil])⟩
    have other : last ≠ '[' := by
      rintro rfl
      exact spelled.bracket_not_mem inner (List.mem_of_getLast? ends)
    exact read_array (by rw [whole, itemText?_listed list ends other]) inner spelled valued

/-- Only what the grammar allows is read. -/
theorem spelled_of_read {type : OptionType} (ok : read s = .ok type) : type.Spelled s := by
  fun_induction read s generalizing type with
  | case1 => cases ok
  | case2 => cases ok
  | case3 => cases ok
  | case4 => cases ok
  | case5 written =>
    rename_i items found type read noArray noFlag ih
    cases ok
    have outer := Text.padded_trim written
    have inner := Text.padded_trim items
    cases ih read with
    | suffixed | listed => simp at noArray
    | element spelled core =>
      obtain whole | ⟨word, list, whole⟩ := itemText?_cases found
      · exact .suffixed spelled noFlag (core.trans inner) (whole ▸ outer)
      · exact .listed spelled noFlag (core.trans inner) list (whole ▸ outer)
  | case6 written =>
    rename_i found
    cases ok
    have listed := Table.mem_of_lookup found
    have same := Text.map_toLower_of_lower (isPlainWord_alias listed) (String.toList_ofList).symm
    exact .element (.scalar listed same) (Text.padded_trim written)
  | case7 written =>
    rename_i dotted
    cases ok
    refine .element (.object (isClassName_of dotted)) ?_
    rw [String.toList_ofList]
    exact Text.padded_trim written
  | case8 => cases ok

/-- What is read is what the grammar allows. -/
theorem read_eq_ok_iff {type : OptionType} : read s = .ok type ↔ type.Spelled s :=
  ⟨spelled_of_read, Spelled.read_eq⟩

theorem spelled_text {type : OptionType} (spelled : type.Spelled s) :
    type.Spelled type.text.toList := by
  have own {element : ElementType} {core : List Char} (spelled : element.Spelled core) :
      element.Spelled element.text.toList := by
    cases spelled with
    | scalar listed same =>
      have table : ∀ entry ∈ aliases, (entry.2.name, entry.2) ∈ aliases ∧
          entry.2.name.toList.map Char.toLower = entry.2.name.toList := by decide
      obtain ⟨listed, same⟩ := table _ listed
      exact .scalar listed same
    | object dotted => exact .object dotted
  cases spelled with
  | element spelled => exact .element (own spelled) (.refl _)
  | suffixed spelled valued | listed spelled valued =>
    have closed := Spelled.suffixed (own spelled) valued (.refl _) (.refl _)
    simpa [text] using closed

end OptionType

namespace Definition

variable {context : String} {value : Json}

theorem optionType_eq_ok_iff {type : OptionType} :
    optionType context value = .ok type ↔
      ∃ written, value = .text written ∧ type.Spelled written.toList := by
  cases value with
  | text written =>
    have parsed : OptionType.read written.toList = .ok type ↔ _ := OptionType.read_eq_ok_iff
    simp only [optionType, OptionType.parse, Json.text.injEq, exists_eq_left', ← parsed]
    cases OptionType.read written.toList <;> simp
  | _ => simp [optionType]

theorem optionType_cases (context : String) (value : Json) :
    (∃ type, optionType context value = .ok type) ∨
      ∃ cause, optionType context value = .error (.unsupportedType context cause) := by
  unfold optionType
  dsimp only
  split
  · exact .inl ⟨_, rfl⟩
  · exact .inr ⟨_, rfl⟩

/-- A text names a type just where the grammar says that it does, and the type is the one that the
grammar gives it; whatever else stands where a type should is refused as an unsupported type. A type
that was read is what its own text names. -/
theorem optionType_grammar (context : String) (value : Json) :
    (∀ type, optionType context value = .ok type ↔
      ∃ written, value = .text written ∧ type.Spelled written.toList) ∧
    ((∃ cause, optionType context value = .error (.unsupportedType context cause)) ↔
      ¬∃ written type, value = .text written ∧ OptionType.Spelled type written.toList) ∧
    ∀ type, optionType context value = .ok type →
      optionType context (.text type.text) = .ok type := by
  refine ⟨fun type => optionType_eq_ok_iff, ⟨?_, fun outside => ?_⟩, fun type read => ?_⟩
  · rintro ⟨cause, refused⟩ ⟨written, type, text, spelled⟩
    have read : optionType context value = .ok type :=
      optionType_eq_ok_iff.mpr ⟨written, text, spelled⟩
    rw [refused] at read
    cases read
  · obtain ⟨type, read⟩ | refused := optionType_cases context value
    · obtain ⟨written, text, spelled⟩ := optionType_eq_ok_iff.mp read
      exact absurd ⟨written, type, text, spelled⟩ outside
    · exact refused
  · obtain ⟨written, text, spelled⟩ := optionType_eq_ok_iff.mp read
    exact optionType_eq_ok_iff.mpr ⟨type.text, rfl, OptionType.spelled_text spelled⟩

-- What is in brackets twice is refused whichever pair is taken off first.
example : (OptionType.parse "list[int][]", OptionType.parse "\tLIST[ a.B ] ") =
    (.error (.nestedArray "list[int][]"), .ok ⟨.object "a.B", true⟩) := by
  decide +kernel

end Definition

end OptionProtocol
