/-!
# Maps and sets of names, kept in order

An interface lists what its module exports in tables keyed by text. The tables are written to disk
and hashed, so each table has one form only: the list of its entries in strictly increasing order
of their keys. Keys compare character by character, which for UTF-8 is the order of their bytes.

A set of names is a map whose values carry nothing. Since equal contents mean equal lists, equality
of maps is equality of their entries, and `OrderedMap.ext_get?` says that looking up every key
determines the map.
-/

namespace ModuleLoader

/-- **A map from texts**, as the list of its entries in increasing order of keys. -/
structure OrderedMap (α : Type) where
  /-- The entries in order. -/
  entries : List (String × α)
  /-- Each key comes before all later ones. -/
  sorted : entries.Pairwise fun a b => a.1 < b.1
  deriving DecidableEq

namespace OrderedMap

variable {α β : Type}

/-- The map without entries. -/
def empty : OrderedMap α := ⟨[], .nil⟩

instance : EmptyCollection (OrderedMap α) := ⟨empty⟩

instance : Inhabited (OrderedMap α) := ⟨empty⟩

/-- Entries with a key set to a value; what the key held before is dropped. -/
def insertEntry (key : String) (value : α) : List (String × α) → List (String × α)
  | [] => [(key, value)]
  | (k, v) :: rest =>
    if key < k then (key, value) :: (k, v) :: rest
    else if key = k then (key, value) :: rest
    else (k, v) :: insertEntry key value rest

theorem mem_insertEntry {key : String} {value : α} {entries : List (String × α)} {e : String × α}
    (h : e ∈ insertEntry key value entries) : e = (key, value) ∨ e ∈ entries := by
  induction entries with
  | nil => simpa [insertEntry] using h
  | cons head rest ih =>
    unfold insertEntry at h
    split at h
    · simpa using h
    · split at h
      · rcases List.mem_cons.1 h with h | h
        · exact .inl h
        · exact .inr (List.mem_cons_of_mem _ h)
      · rcases List.mem_cons.1 h with h | h
        · exact .inr (h ▸ List.mem_cons_self)
        · exact (ih h).imp_right (List.mem_cons_of_mem _)

theorem sorted_insertEntry (key : String) (value : α) {entries : List (String × α)}
    (h : entries.Pairwise fun a b => a.1 < b.1) :
    (insertEntry key value entries).Pairwise fun a b => a.1 < b.1 := by
  induction entries with
  | nil => simp [insertEntry]
  | cons head rest ih =>
    obtain ⟨hhead, hrest⟩ := List.pairwise_cons.1 h
    unfold insertEntry
    split
    · rename_i hlt
      refine List.pairwise_cons.2 ⟨?_, h⟩
      intro e he
      rcases List.mem_cons.1 he with rfl | he
      · exact hlt
      · exact String.lt_trans hlt (hhead e he)
    · split
      · rename_i heq
        exact List.pairwise_cons.2 ⟨fun e he => heq ▸ hhead e he, hrest⟩
      · rename_i hnlt hne
        refine List.pairwise_cons.2 ⟨?_, ih hrest⟩
        intro e he
        rcases mem_insertEntry he with rfl | he
        · exact Std.lt_of_le_of_ne (String.not_lt.1 hnlt) (Ne.symm hne)
        · exact hhead e he

/-- The map with a key set to a value. -/
def insert (m : OrderedMap α) (key : String) (value : α) : OrderedMap α :=
  ⟨insertEntry key value m.entries, sorted_insertEntry key value m.sorted⟩

/-- The value of a key. -/
def get? (m : OrderedMap α) (key : String) : Option α := m.entries.lookup key

/-- Whether a key has a value. -/
def contains (m : OrderedMap α) (key : String) : Bool := (m.get? key).isSome

/-- The keys in order. -/
def keys (m : OrderedMap α) : List String := m.entries.map (·.1)

/-- A map with the entries of a list added one after the other: of two values for one key the
later one stays. -/
def insertAll (m : OrderedMap α) (entries : List (String × α)) : OrderedMap α :=
  entries.foldl (fun m e => m.insert e.1 e.2) m

/-- The map of a list of entries, in any order; of two values for one key the later one stays. -/
def ofList (entries : List (String × α)) : OrderedMap α := empty.insertAll entries

/-- The union of two maps; where both hold a key, the second one's value stays. -/
def union (m n : OrderedMap α) : OrderedMap α := m.insertAll n.entries

/-! ## Looking keys up -/

@[simp] theorem get?_empty (key : String) : (empty : OrderedMap α).get? key = none := rfl

theorem lookup_insertEntry (key : String) (value : α) (entries : List (String × α)) (k : String) :
    (insertEntry key value entries).lookup k
      = if k = key then some value else entries.lookup k := by
  induction entries with
  | nil =>
    by_cases h : k = key
    · simp [insertEntry, h]
    · simp [insertEntry, List.lookup_cons, beq_eq_false_iff_ne.2 h, h]
  | cons head rest ih =>
    obtain ⟨k', v'⟩ := head
    unfold insertEntry
    split
    · by_cases h : k = key
      · subst h; simp
      · simp only [List.lookup_cons, beq_eq_false_iff_ne.2 h, if_neg h]
    · split
      · rename_i heq
        subst heq
        by_cases h : k = key
        · subst h; simp
        · simp only [List.lookup_cons, beq_eq_false_iff_ne.2 h, if_neg h]
      · rename_i hne
        by_cases h : k = k'
        · subst h
          simp only [List.lookup_cons, beq_self_eq_true, if_neg (Ne.symm hne)]
        · simp only [List.lookup_cons, beq_eq_false_iff_ne.2 h, ih]

/-- Setting a key changes what that key holds and nothing else. -/
@[simp] theorem get?_insert (m : OrderedMap α) (key : String) (value : α) (k : String) :
    (m.insert key value).get? k = if k = key then some value else m.get? k :=
  lookup_insertEntry key value m.entries k

/-- No key below all keys of a list is found in it. -/
theorem lookup_eq_none_of_lt {entries : List (String × α)} {key : String}
    (h : ∀ e ∈ entries, key < e.1) : entries.lookup key = none := by
  induction entries with
  | nil => rfl
  | cons head rest ih =>
    have hlt := h head List.mem_cons_self
    have hne : key ≠ head.1 := fun he => String.lt_irrefl _ (he ▸ hlt)
    obtain ⟨k, v⟩ := head
    rw [List.lookup_cons, beq_eq_false_iff_ne.2 hne]
    exact ih fun e he => h e (List.mem_cons_of_mem _ he)

/-- Sorted lists in which every key is found alike are one list. -/
theorem eq_of_lookup_eq {xs ys : List (String × α)}
    (hx : xs.Pairwise fun a b => a.1 < b.1) (hy : ys.Pairwise fun a b => a.1 < b.1)
    (h : ∀ key, xs.lookup key = ys.lookup key) : xs = ys := by
  induction xs generalizing ys with
  | nil =>
    cases ys with
    | nil => rfl
    | cons y ys => have := (h y.1).symm; simp at this
  | cons x xs ih =>
    cases ys with
    | nil => have := h x.1; simp at this
    | cons y ys =>
      obtain ⟨hxall, hxs⟩ := List.pairwise_cons.1 hx
      obtain ⟨hyall, hys⟩ := List.pairwise_cons.1 hy
      obtain ⟨kx, vx⟩ := x
      obtain ⟨ky, vy⟩ := y
      have hkeys : kx = ky := by
        rcases Std.lt_trichotomy kx ky with hlt | heq | hgt
        · have hnone : ((ky, vy) :: ys).lookup kx = none :=
            lookup_eq_none_of_lt fun e he => by
              rcases List.mem_cons.1 he with rfl | he
              · exact hlt
              · exact String.lt_trans hlt (hyall e he)
          have := h kx
          rw [hnone] at this
          simp at this
        · exact heq
        · have hnone : ((kx, vx) :: xs).lookup ky = none :=
            lookup_eq_none_of_lt fun e he => by
              rcases List.mem_cons.1 he with rfl | he
              · exact hgt
              · exact String.lt_trans hgt (hxall e he)
          have := h ky
          rw [hnone] at this
          simp at this
      subst hkeys
      have hv : vx = vy := by simpa using h kx
      subst hv
      refine congrArg _ (ih hxs hys fun key => ?_)
      by_cases hk : key = kx
      · subst hk
        rw [lookup_eq_none_of_lt hxall, lookup_eq_none_of_lt hyall]
      · have := h key
        simpa only [List.lookup_cons, beq_eq_false_iff_ne.2 hk] using this

/-- **Looking up every key determines a map.** -/
theorem ext_get? {m n : OrderedMap α} (h : ∀ key, m.get? key = n.get? key) : m = n := by
  obtain ⟨xs, hx⟩ := m
  obtain ⟨ys, hy⟩ := n
  have : xs = ys := eq_of_lookup_eq hx hy h
  subst this
  rfl

/-- A key above all others goes to the end. -/
theorem insertEntry_of_forall_lt {key : String} {value : α} {entries : List (String × α)}
    (h : ∀ e ∈ entries, e.1 < key) : insertEntry key value entries = entries ++ [(key, value)] := by
  induction entries with
  | nil => rfl
  | cons head rest ih =>
    have hlt := h head List.mem_cons_self
    unfold insertEntry
    rw [if_neg fun hgt => String.lt_irrefl _ (String.lt_trans hlt hgt),
      if_neg fun heq : key = head.1 => String.lt_irrefl key (heq ▸ hlt), List.cons_append,
      ih fun e he => h e (List.mem_cons_of_mem _ he)]

theorem entries_insertAll_of_sorted {m : OrderedMap α} {entries : List (String × α)}
    (h : (m.entries ++ entries).Pairwise fun a b => a.1 < b.1) :
    (m.insertAll entries).entries = m.entries ++ entries := by
  induction entries generalizing m with
  | nil => simp [insertAll]
  | cons e rest ih =>
    have hlast : ∀ e' ∈ m.entries, e'.1 < e.1 := fun e' he' =>
      (List.pairwise_append.1 h).2.2 e' he' e List.mem_cons_self
    have hinsert : (m.insert e.1 e.2).entries = m.entries ++ [e] := insertEntry_of_forall_lt hlast
    have : ((m.insert e.1 e.2).entries ++ rest).Pairwise fun a b => a.1 < b.1 := by
      rw [hinsert, List.append_assoc]; exact h
    show ((m.insert e.1 e.2).insertAll rest).entries = _
    rw [ih this, hinsert, List.append_assoc]
    rfl

/-- A map is the map of its entries. -/
@[simp] theorem ofList_entries (m : OrderedMap α) : ofList m.entries = m := by
  have : (ofList m.entries).entries = m.entries := entries_insertAll_of_sorted m.sorted
  cases m
  cases hm : ofList _
  simp_all

end OrderedMap

/-- **A set of texts.** -/
abbrev NameSet := OrderedMap Unit

namespace NameSet

/-- The set of the members of a list. -/
def ofList (names : List String) : NameSet := OrderedMap.ofList (names.map fun n => (n, ()))

/-- The set with one more member. -/
def insert (s : NameSet) (name : String) : NameSet := OrderedMap.insert s name ()

/-- The members in order. -/
def toList (s : NameSet) : List String := OrderedMap.keys s

end NameSet

end ModuleLoader
