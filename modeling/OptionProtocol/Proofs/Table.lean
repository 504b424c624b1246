import OptionProtocol.Json.Basic

/-! Tables: lists of entries with a key each, of which the first one with a key counts. -/

set_option autoImplicit false

namespace OptionProtocol.Table

variable {Key Value : Type} [BEq Key] [LawfulBEq Key]

theorem mem_of_lookup {key : Key} {value : Value} {table : List (Key × Value)}
    (found : table.lookup key = some value) : (key, value) ∈ table := by
  obtain ⟨front, rest, whole, _⟩ := List.lookup_eq_some_iff.mp found
  simp [whole]

theorem lookup_cons_of_ne {key other : Key} (apart : other ≠ key) (value : Value)
    (table : List (Key × Value)) : ((key, value) :: table).lookup other = table.lookup other := by
  simp [List.lookup_cons, beq_false_of_ne apart]

theorem of_lookup_cons {key other : Key} {value found : Value} {table : List (Key × Value)}
    (given : ((key, value) :: table).lookup other = some found) :
    other = key ∧ found = value ∨ table.lookup other = some found := by
  by_cases same : other = key
  · subst same
    cases List.lookup_cons_self.symm.trans given
    exact .inl ⟨rfl, rfl⟩
  · exact .inr ((lookup_cons_of_ne same value table).symm.trans given)

theorem lookup_of_mem {key : Key} {value : Value} {table : List (Key × Value)}
    (distinct : (table.map Prod.fst).Nodup) (member : (key, value) ∈ table) :
    table.lookup key = some value := by
  induction table with
  | nil => cases member
  | cons entry rest ih =>
    obtain ⟨here, old⟩ := entry
    obtain ⟨apart, distinct⟩ := List.nodup_cons.mp distinct
    rcases List.mem_cons.mp member with same | later
    · cases same
      exact List.lookup_cons_self
    · have other : key ≠ here := by
        rintro rfl
        exact apart (List.mem_map.mpr ⟨_, later, rfl⟩)
      rw [lookup_cons_of_ne other, ih distinct later]

theorem lookup_filter_ne {key other : Key} (apart : other ≠ key) (table : List (Key × Value)) :
    (table.filter fun entry => entry.1 != key).lookup other = table.lookup other := by
  induction table with
  | nil => rfl
  | cons entry rest ih =>
    obtain ⟨here, value⟩ := entry
    by_cases gone : here = key
    · subst gone
      simp [lookup_cons_of_ne apart, ih]
    · simp [gone, List.lookup_cons, ih]

variable {members : List (String × Value)} {name : String} {value : Value}

theorem lookup_put (members : List (String × Value)) (name : String) (value : Value)
    (other : String) :
    (Json.put members name value).lookup other =
      if other = name then some value else members.lookup other := by
  induction members with
  | nil =>
    split
    · rename_i same
      simp [Json.put, same]
    · rename_i apart
      exact lookup_cons_of_ne apart value []
  | cons entry rest ih =>
    obtain ⟨here, old⟩ := entry
    rw [Json.put]
    by_cases found : here = name
    · subst found
      rw [if_pos rfl]
      by_cases same : other = here
      · simp [same]
      · rw [lookup_cons_of_ne same, lookup_cons_of_ne same, if_neg same]
    · rw [if_neg found]
      by_cases same : other = here
      · subst same
        simp [found]
      · rw [lookup_cons_of_ne same, lookup_cons_of_ne same, ih]

theorem mem_put {entry : String × Value} (member : entry ∈ Json.put members name value) :
    entry = (name, value) ∨ entry ∈ members := by
  induction members with
  | nil => exact .inl (List.mem_singleton.mp member)
  | cons first rest ih =>
    rw [Json.put] at member
    split at member
    · rcases List.mem_cons.mp member with new | old
      · exact .inl new
      · exact .inr (List.mem_cons_of_mem _ old)
    · rcases List.mem_cons.mp member with here | later
      · exact .inr (here ▸ List.mem_cons_self)
      · exact (ih later).imp_right (List.mem_cons_of_mem _)

/-- A key that is there keeps its place, a new one comes last. -/
theorem keys_put (members : List (String × Value)) (name : String) (value : Value) :
    (Json.put members name value).map Prod.fst =
      if name ∈ members.map Prod.fst then members.map Prod.fst
      else members.map Prod.fst ++ [name] := by
  induction members with
  | nil => rfl
  | cons entry rest ih =>
    obtain ⟨here, old⟩ := entry
    rw [Json.put]
    by_cases found : here = name
    · simp [found]
    · rw [if_neg found, List.map_cons, ih]
      by_cases later : name ∈ rest.map Prod.fst
      · simp [later]
      · simp [later, Ne.symm found]

theorem nodup_keys_put (distinct : (members.map Prod.fst).Nodup) :
    ((Json.put members name value).map Prod.fst).Nodup := by
  rw [keys_put]
  split
  · exact distinct
  · rename_i apart
    refine List.nodup_append.mpr ⟨distinct, by simp, ?_⟩
    rintro key inside other last rfl
    exact apart (List.mem_singleton.mp last ▸ inside)

/-- Of several values under one name the last one counts. -/
theorem lookup_putAll (members more : List (String × Value)) (name : String) :
    (Json.putAll members more).lookup name =
      (more.reverse.lookup name).or (members.lookup name) := by
  induction more generalizing members with
  | nil => rfl
  | cons entry rest ih =>
    obtain ⟨here, value⟩ := entry
    change (Json.putAll (Json.put members here value) rest).lookup name = _
    rw [ih, lookup_put, List.reverse_cons, List.lookup_append, Option.or_assoc]
    congr 1
    by_cases same : name = here
    · simp [same]
    · simp [same, lookup_cons_of_ne same]

/-- The names are those of both. -/
theorem mem_keys_putAll {members more : List (String × Value)} :
    name ∈ (Json.putAll members more).map Prod.fst ↔
      name ∈ members.map Prod.fst ∨ name ∈ more.map Prod.fst := by
  induction more generalizing members with
  | nil => simp [Json.putAll]
  | cons entry rest ih =>
    obtain ⟨here, value⟩ := entry
    change name ∈ (Json.putAll (Json.put members here value) rest).map Prod.fst ↔ _
    rw [ih, keys_put, List.map_cons, List.mem_cons]
    split
    · grind
    · grind

theorem put_eq_append (fresh : name ∉ members.map Prod.fst) (value : Value) :
    Json.put members name value = members ++ [(name, value)] := by
  induction members with
  | nil => rfl
  | cons entry rest ih =>
    obtain ⟨here, old⟩ := entry
    obtain ⟨apart, fresh⟩ := not_or.mp (mt List.mem_cons.mpr fresh)
    rw [Json.put, if_neg (Ne.symm apart), ih fresh, List.cons_append]

/-- Entries with new names come behind those that are there. -/
theorem putAll_eq_append {members more : List (String × Value)}
    (distinct : ((members ++ more).map Prod.fst).Nodup) :
    Json.putAll members more = members ++ more := by
  induction more generalizing members with
  | nil => exact (List.append_nil members).symm
  | cons entry rest ih =>
    obtain ⟨name, value⟩ := entry
    have fresh : name ∉ members.map Prod.fst := by
      rw [List.map_append, List.map_cons] at distinct
      intro inside
      exact (List.nodup_append.mp distinct).2.2 name inside name List.mem_cons_self rfl
    change Json.putAll (Json.put members name value) rest = _
    rw [put_eq_append fresh, ih (by rwa [List.append_assoc]), List.append_assoc]
    rfl

theorem nodup_keys_putAll {members more : List (String × Value)}
    (distinct : (members.map Prod.fst).Nodup) :
    ((Json.putAll members more).map Prod.fst).Nodup := by
  induction more generalizing members with
  | nil => exact distinct
  | cons entry rest ih => exact ih (nodup_keys_put distinct)

theorem putAll_append (members more others : List (String × Value)) :
    Json.putAll members (more ++ others) = Json.putAll (Json.putAll members more) others := by
  simp [Json.putAll, List.foldl_append]

end OptionProtocol.Table
