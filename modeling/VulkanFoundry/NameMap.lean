/-
# Finite maps from names, in the order of the names

Everything the registry declares is found by name and listed in the order of
the names, so that what is generated depends on the declarations and not on
where they stand in a document. A `NameMap` is the list of its entries with
strictly increasing names; strings are compared by code point, which for
UTF-8 text is also the order of the bytes. Because the list is sorted, two
maps with the same look-ups are the same map (`NameMap.ext_get?`).

A set of names is a map to the one value of `Unit`.

Key definitions: `NameMap`, `NameMap.get?`, `NameMap.insert`, `NameMap.names`,
`NameSet`.
-/
namespace VulkanFoundry

/-- Entries whose names strictly increase. -/
def SortedEntries {α : Type} (entries : List (String × α)) : Prop :=
  entries.Pairwise fun a b => a.1 < b.1

/-- A finite map from names to values, listed in the order of the names. -/
structure NameMap (α : Type) where
  entries : List (String × α)
  sorted : SortedEntries entries
  deriving DecidableEq

namespace NameMap

variable {α β : Type}

/-- Puts an entry at its place in the list; an entry of the same name is
replaced. -/
def insertEntry (name : String) (value : α) : List (String × α) → List (String × α)
  | [] => [(name, value)]
  | (n, v) :: rest =>
    if name < n then (name, value) :: (n, v) :: rest
    else if name = n then (name, value) :: rest
    else (n, v) :: insertEntry name value rest

def lookup (name : String) : List (String × α) → Option α
  | [] => none
  | (n, v) :: rest => if n = name then some v else lookup name rest

theorem mem_insertEntry {name : String} {value : α} {e : String × α} :
    ∀ {entries : List (String × α)}, e ∈ insertEntry name value entries →
      e = (name, value) ∨ e ∈ entries
  | [], h => by simpa [insertEntry] using h
  | (n, v) :: rest, h => by
    unfold insertEntry at h
    split at h
    · simpa using h
    · split at h
      · rcases List.mem_cons.1 h with h | h
        · exact .inl h
        · exact .inr (List.mem_cons_of_mem _ h)
      · rcases List.mem_cons.1 h with h | h
        · exact .inr (h ▸ List.mem_cons_self)
        · exact (mem_insertEntry h).imp_right (List.mem_cons_of_mem _)

theorem sorted_insertEntry (name : String) (value : α) :
    ∀ {entries : List (String × α)}, SortedEntries entries →
      SortedEntries (insertEntry name value entries)
  | [], _ => by simp [insertEntry, SortedEntries]
  | (n, v) :: rest, h => by
    have hrest : SortedEntries rest := (List.pairwise_cons.1 h).2
    have hhead := (List.pairwise_cons.1 h).1
    unfold insertEntry
    split
    · rename_i hlt
      refine List.pairwise_cons.2 ⟨fun e he => ?_, h⟩
      rcases List.mem_cons.1 he with rfl | he
      · exact hlt
      · exact String.lt_trans hlt (hhead e he)
    · split
      · rename_i heq
        exact List.pairwise_cons.2 ⟨fun e he => heq ▸ hhead e he, hrest⟩
      · rename_i hlt hne
        refine List.pairwise_cons.2 ⟨fun e he => ?_, sorted_insertEntry name value hrest⟩
        rcases mem_insertEntry he with rfl | he
        · have hle : n ≤ name := String.not_lt.1 hlt
          exact Decidable.byContradiction fun hn =>
            hne (String.le_antisymm (String.not_lt.1 hn) hle)
        · exact hhead e he

def empty : NameMap α := ⟨[], List.Pairwise.nil⟩

instance : EmptyCollection (NameMap α) := ⟨empty⟩

instance : Inhabited (NameMap α) := ⟨empty⟩

def get? (m : NameMap α) (name : String) : Option α := lookup name m.entries

def contains (m : NameMap α) (name : String) : Bool := (m.get? name).isSome

/-- The map in which the name has the value; a value it had before is
replaced. -/
def insert (m : NameMap α) (name : String) (value : α) : NameMap α :=
  ⟨insertEntry name value m.entries, sorted_insertEntry name value m.sorted⟩

/-- The map of a list of entries, later entries replacing earlier ones. -/
def ofList (entries : List (String × α)) : NameMap α :=
  entries.foldl (fun m e => m.insert e.1 e.2) empty

def names (m : NameMap α) : List String := m.entries.map (·.1)

def values (m : NameMap α) : List α := m.entries.map (·.2)

def size (m : NameMap α) : Nat := m.entries.length

def isEmpty (m : NameMap α) : Bool := m.entries.isEmpty

/-- Every entry of `n` added to `m`; where both have a name, `n` decides. -/
def union (m n : NameMap α) : NameMap α :=
  n.entries.foldl (fun acc e => acc.insert e.1 e.2) m

theorem lookup_insertEntry_self (name : String) (value : α) :
    ∀ entries : List (String × α), lookup name (insertEntry name value entries) = some value
  | [] => by simp [insertEntry, lookup]
  | (n, v) :: rest => by
    unfold insertEntry
    split
    · simp [lookup]
    · split
      · simp [lookup]
      · rename_i hne
        simp [lookup, Ne.symm hne, lookup_insertEntry_self name value rest]

theorem lookup_insertEntry_of_ne {name other : String} (h : other ≠ name) (value : α) :
    ∀ entries : List (String × α),
      lookup other (insertEntry name value entries) = lookup other entries
  | [] => by simp [insertEntry, lookup, Ne.symm h]
  | (n, v) :: rest => by
    unfold insertEntry
    split
    · simp [lookup, Ne.symm h]
    · split
      · rename_i heq
        subst heq
        simp [lookup, Ne.symm h]
      · simp [lookup, lookup_insertEntry_of_ne h value rest]

@[simp] theorem get?_empty (name : String) : (empty : NameMap α).get? name = none := rfl

@[simp] theorem get?_insert_self (m : NameMap α) (name : String) (value : α) :
    (m.insert name value).get? name = some value :=
  lookup_insertEntry_self name value m.entries

/-- An insertion changes the look-up of its own name only. -/
theorem get?_insert_of_ne (m : NameMap α) {name other : String} (h : other ≠ name) (value : α) :
    (m.insert name value).get? other = m.get? other :=
  lookup_insertEntry_of_ne h value m.entries

theorem lookup_eq_some_iff {name : String} {value : α} :
    ∀ {entries : List (String × α)}, SortedEntries entries →
      (lookup name entries = some value ↔ (name, value) ∈ entries)
  | [], _ => by simp [lookup]
  | (n, v) :: rest, h => by
    have hhead := (List.pairwise_cons.1 h).1
    have hrest : SortedEntries rest := (List.pairwise_cons.1 h).2
    by_cases hn : n = name
    · subst hn
      simp only [lookup, if_true, Option.some.injEq, List.mem_cons, Prod.mk.injEq, true_and]
      constructor
      · intro hv
        exact .inl hv.symm
      · rintro (hv | hm)
        · exact hv.symm
        · exact absurd (hhead _ hm) (String.lt_irrefl _)
    · simp only [lookup, if_neg hn, List.mem_cons, Prod.mk.injEq]
      rw [lookup_eq_some_iff hrest]
      constructor
      · exact .inr
      · rintro (⟨rfl, _⟩ | hm)
        · exact absurd rfl hn
        · exact hm

/-- The entries are the look-ups that succeed. -/
theorem mem_entries_iff {m : NameMap α} {name : String} {value : α} :
    (name, value) ∈ m.entries ↔ m.get? name = some value :=
  (lookup_eq_some_iff m.sorted).symm

theorem eq_of_sorted_of_mem_iff :
    ∀ {l₁ l₂ : List (String × α)}, SortedEntries l₁ → SortedEntries l₂ →
      (∀ e, e ∈ l₁ ↔ e ∈ l₂) → l₁ = l₂
  | [], [], _, _, _ => rfl
  | [], e :: _, _, _, h => absurd ((h e).2 List.mem_cons_self) List.not_mem_nil
  | e :: _, [], _, _, h => absurd ((h e).1 List.mem_cons_self) List.not_mem_nil
  | a :: l₁, b :: l₂, h₁, h₂, h => by
    have ha := (List.pairwise_cons.1 h₁).1
    have hb := (List.pairwise_cons.1 h₂).1
    have hab : a = b := by
      rcases List.mem_cons.1 ((h a).1 List.mem_cons_self) with hab | hab
      · exact hab
      · rcases List.mem_cons.1 ((h b).2 List.mem_cons_self) with hba | hba
        · exact hba.symm
        · exact absurd (String.lt_trans (hb a hab) (ha b hba)) (String.lt_irrefl _)
    subst hab
    congr 1
    refine eq_of_sorted_of_mem_iff (List.pairwise_cons.1 h₁).2 (List.pairwise_cons.1 h₂).2
      fun e => ⟨fun he => ?_, fun he => ?_⟩
    · rcases List.mem_cons.1 ((h e).1 (List.mem_cons_of_mem _ he)) with rfl | he'
      · exact absurd (ha _ he) (String.lt_irrefl _)
      · exact he'
    · rcases List.mem_cons.1 ((h e).2 (List.mem_cons_of_mem _ he)) with rfl | he'
      · exact absurd (hb _ he) (String.lt_irrefl _)
      · exact he'

theorem get?_insert (m : NameMap α) (name other : String) (value : α) :
    (m.insert name value).get? other = if other = name then some value else m.get? other := by
  by_cases h : other = name
  · rw [if_pos h, h, get?_insert_self]
  · rw [if_neg h, get?_insert_of_ne m h]

@[simp] theorem get?_emptyCollection (name : String) : (∅ : NameMap α).get? name = none := rfl

@[simp] theorem contains_emptyCollection (name : String) :
    (∅ : NameMap α).contains name = false := rfl

theorem contains_iff {m : NameMap α} {name : String} :
    m.contains name = true ↔ ∃ value, m.get? name = some value :=
  Option.isSome_iff_exists

theorem contains_insert {m : NameMap α} {name other : String} {value : α} :
    (m.insert name value).contains other = true ↔ other = name ∨ m.contains other = true := by
  rw [contains, get?_insert, contains]
  by_cases h : other = name <;> simp [h]

theorem mem_names_iff {m : NameMap α} {name : String} :
    name ∈ m.names ↔ m.contains name = true := by
  rw [contains_iff, names, List.mem_map]
  constructor
  · rintro ⟨e, he, rfl⟩
    exact ⟨e.2, mem_entries_iff.1 he⟩
  · rintro ⟨value, h⟩
    exact ⟨(name, value), mem_entries_iff.2 h, rfl⟩

theorem nodup_names (m : NameMap α) : m.names.Nodup :=
  List.pairwise_map.2 (m.sorted.imp fun h => String.ne_of_lt h)

/-- Maps with the same look-ups are the same map. -/
theorem ext_get? {m n : NameMap α} (h : ∀ name, m.get? name = n.get? name) : m = n := by
  have he : m.entries = n.entries :=
    eq_of_sorted_of_mem_iff m.sorted n.sorted fun e => by
      rw [show e = (e.1, e.2) from rfl, mem_entries_iff, mem_entries_iff, h]
  cases m
  cases n
  simp_all

/-- Inserting what is there already changes nothing. -/
theorem insert_eq_self {m : NameMap α} {name : String} {value : α}
    (h : m.get? name = some value) : m.insert name value = m := by
  refine ext_get? fun other => ?_
  rw [get?_insert]
  split
  · rename_i heq
    rw [heq, h]
  · rfl

/-- The values are those that some name has. -/
theorem mem_values_iff {m : NameMap α} {value : α} :
    value ∈ m.values ↔ ∃ name, m.get? name = some value := by
  rw [values, List.mem_map]
  constructor
  · rintro ⟨e, he, rfl⟩
    exact ⟨e.1, mem_entries_iff.1 he⟩
  · rintro ⟨name, h⟩
    exact ⟨(name, value), mem_entries_iff.2 h, rfl⟩

theorem lookup_append {name : String} :
    ∀ l l' : List (String × α), lookup name (l ++ l') = (lookup name l).or (lookup name l')
  | [], _ => rfl
  | (n, v) :: l, l' => by
    rw [List.cons_append, lookup, lookup]
    split
    · rfl
    · exact lookup_append l l'

theorem lookup_eq_none_iff {name : String} :
    ∀ {l : List (String × α)}, lookup name l = none ↔ ∀ e ∈ l, e.1 ≠ name
  | [] => by simp [lookup]
  | (n, v) :: l => by
    rw [lookup, List.forall_mem_cons]
    by_cases h : n = name
    · simp [h]
    · simp [h, lookup_eq_none_iff (l := l)]

/-- Each name stands once, so it does not matter from which end it is looked up. -/
theorem lookup_reverse {name : String} :
    ∀ {l : List (String × α)}, SortedEntries l → lookup name l.reverse = lookup name l
  | [], _ => rfl
  | (n, v) :: l, h => by
    obtain ⟨hhead, hrest⟩ := List.pairwise_cons.1 h
    rw [List.reverse_cons, lookup_append, lookup_reverse hrest]
    by_cases hn : n = name
    · have hnone : lookup name l = none := by
        refine lookup_eq_none_iff.2 fun e he => ?_
        exact hn ▸ (String.ne_of_lt (hhead e he)).symm
      simp [lookup, hn, hnone]
    · simp [lookup, hn]

theorem get?_foldl_insert {name : String} : ∀ (entries : List (String × α)) (m : NameMap α),
    (entries.foldl (fun m e => m.insert e.1 e.2) m).get? name =
      (lookup name entries.reverse).or (m.get? name)
  | [], _ => rfl
  | (n, v) :: rest, m => by
    rw [List.foldl_cons, get?_foldl_insert rest, List.reverse_cons, lookup_append, get?_insert]
    by_cases h : n = name
    · simp [lookup, h]
    · simp [lookup, h, Ne.symm h]

/-- Of the entries of one name the last one counts. -/
theorem get?_ofList (entries : List (String × α)) (name : String) :
    (ofList entries).get? name = lookup name entries.reverse := by
  rw [ofList, get?_foldl_insert, get?_empty, Option.or_none]

/-- In a union the second map decides where it has the name. -/
theorem get?_union (m n : NameMap α) (name : String) :
    (m.union n).get? name = (n.get? name).or (m.get? name) := by
  rw [union, get?_foldl_insert, lookup_reverse n.sorted]
  rfl

theorem ofList_append (l l' : List (String × α)) :
    ofList (l ++ l') = (ofList l).union (ofList l') := by
  refine ext_get? fun name => ?_
  rw [get?_union, get?_ofList, get?_ofList, get?_ofList, List.reverse_append, lookup_append]

theorem union_assoc (m n k : NameMap α) : (m.union n).union k = m.union (n.union k) := by
  refine ext_get? fun name => ?_
  rw [get?_union, get?_union, get?_union, get?_union, Option.or_assoc]

@[simp] theorem empty_union (m : NameMap α) : empty.union m = m := by
  refine ext_get? fun name => ?_
  rw [get?_union, get?_empty, Option.or_none]

end NameMap

abbrev NameSet := NameMap Unit

namespace NameSet

def add (s : NameSet) (name : String) : NameSet := NameMap.insert s name ()

def ofNames (names : List String) : NameSet := names.foldl add NameMap.empty

theorem contains_add {s : NameSet} {name other : String} :
    (s.add name).contains other = true ↔ other = name ∨ s.contains other = true :=
  NameMap.contains_insert

theorem contains_foldl_add {name : String} :
    ∀ {names : List String} {s : NameSet},
      (names.foldl add s).contains name = true ↔ s.contains name = true ∨ name ∈ names
  | [], s => by simp
  | n :: rest, s => by
    rw [List.foldl_cons, contains_foldl_add, contains_add, List.mem_cons, or_left_comm, ← or_assoc]

theorem contains_ofNames {names : List String} {name : String} :
    (ofNames names).contains name = true ↔ name ∈ names := by
  rw [ofNames, contains_foldl_add]
  simp [NameMap.contains]

end NameSet

end VulkanFoundry
