/-!
# Lists of pairs

The caches and the disk are lists of keys with values, read by looking a key up: the first pair with
that key counts. Their operations put a pair in front, put one at the end, drop all pairs with a
key, or change all values; what each does to a look-up is said here once.
-/

namespace ModuleLoader

variable {α β : Type} [BEq α] [LawfulBEq α]

/-- What is found under a key is one of the pairs. -/
theorem mem_of_lookup {pairs : List (α × β)} {key : α} {value : β}
    (h : pairs.lookup key = some value) : (key, value) ∈ pairs := by
  obtain ⟨before, after, heq, -⟩ := List.lookup_eq_some_iff.1 h
  rw [heq]
  exact List.mem_append_right _ List.mem_cons_self

variable [DecidableEq α]

/-- A pair in front decides about its key and about no other. -/
theorem lookup_cons_pair (key : α) (value : β) (pairs : List (α × β)) (k : α) :
    ((key, value) :: pairs).lookup k = if k = key then some value else pairs.lookup k := by
  by_cases h : k = key
  · subst h
    simp
  · rw [List.lookup_cons, beq_eq_false_iff_ne.2 h, if_neg h]

/-- A pair at the end decides about its key only where nothing before it does. -/
theorem lookup_append_pair (pairs : List (α × β)) (key : α) (value : β) (k : α) :
    (pairs ++ [(key, value)]).lookup k
      = (pairs.lookup k).or (if k = key then some value else none) := by
  rw [List.lookup_append, lookup_cons_pair]
  rfl

/-- A function on the values is a function on what is found. -/
theorem lookup_map_value {γ : Type} (f : β → γ) (pairs : List (α × β)) (k : α) :
    (pairs.map fun e => (e.1, f e.2)).lookup k = (pairs.lookup k).map f := by
  induction pairs with
  | nil => rfl
  | cons pair rest ih =>
    obtain ⟨key, value⟩ := pair
    rw [List.map_cons, lookup_cons_pair, lookup_cons_pair, ih]
    split <;> rfl

/-- Of the pairs whose keys pass a test, those keys are found as before and no others. -/
theorem lookup_filter_key (pairs : List (α × β)) (test : α → Bool) (k : α) :
    (pairs.filter fun e => test e.1).lookup k = if test k then pairs.lookup k else none := by
  induction pairs with
  | nil => simp
  | cons pair rest ih =>
    obtain ⟨key, value⟩ := pair
    by_cases hkey : test key = true
    · rw [List.filter_cons_of_pos (by simpa using hkey), lookup_cons_pair, lookup_cons_pair, ih]
      by_cases hk : k = key
      · rw [if_pos hk, if_pos hk, hk, if_pos hkey]
      · rw [if_neg hk, if_neg hk]
    · rw [List.filter_cons_of_neg (by simpa using hkey), ih, lookup_cons_pair]
      by_cases hk : k = key
      · rw [hk, if_neg hkey, if_neg hkey]
      · rw [if_neg hk]

/-- Without the pairs of a key, that key is not found, and every other is found as before. -/
theorem lookup_filter_ne (pairs : List (α × β)) (key k : α) :
    (pairs.filter fun e => e.1 ≠ key).lookup k = if k = key then none else pairs.lookup k := by
  rw [lookup_filter_key pairs (fun k => k ≠ key)]
  by_cases hk : k = key
  · rw [if_pos hk, if_neg (by simpa using hk)]
  · rw [if_neg hk, if_pos (by simpa using hk)]

/-- Putting a pair in front and dropping the others with its key changes what is found under that
key and nothing else. -/
theorem lookup_replace (pairs : List (α × β)) (key : α) (value : β) (k : α) :
    ((key, value) :: pairs.filter fun e => e.1 ≠ key).lookup k
      = if k = key then some value else pairs.lookup k := by
  rw [lookup_cons_pair, lookup_filter_ne]
  by_cases hk : k = key
  · rw [if_pos hk, if_pos hk]
  · rw [if_neg hk, if_neg hk, if_neg hk]

end ModuleLoader
