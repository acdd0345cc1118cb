/-!
# Entries

A map whose keys keep the order in which they first came. Putting a value under a key that is there
replaces the value in its place; a new key goes to the end.
-/

namespace WordStrip

/-- Keys with their values, each key once, in the order of their first arrival. -/
abbrev Entries (α : Type) := List (String × α)

namespace Entries

variable {α : Type}

/-- The value under a key. -/
def get? (entries : Entries α) (key : String) : Option α := entries.lookup key

/-- The keys in order. -/
def keys (entries : Entries α) : List String := entries.map (·.1)

/-- The entries with `value` under `key`. -/
def put (key : String) (value : α) : Entries α → Entries α
  | [] => [(key, value)]
  | (k, v) :: rest => if k = key then (key, value) :: rest else (k, v) :: put key value rest

/-- The map in which later pairs overwrite earlier ones. -/
def ofPairs (pairs : List (String × α)) : Entries α :=
  pairs.foldl (fun entries pair => put pair.1 pair.2 entries) []

@[simp] theorem get?_nil (key : String) : get? ([] : Entries α) key = none := rfl

theorem get?_cons (key k : String) (value : α) (rest : Entries α) :
    get? ((k, value) :: rest) key = if key = k then some value else get? rest key := by
  by_cases h : key = k
  · simp [get?, h]
  · have differs : (key == k) = false := by simpa using h
    simp [get?, List.lookup_cons, differs, h]

theorem get?_put (key k : String) (value : α) (entries : Entries α) :
    get? (put key value entries) k = if k = key then some value else get? entries k := by
  induction entries with
  | nil => simp [put, get?_cons]
  | cons entry rest ih =>
    obtain ⟨first, v⟩ := entry
    by_cases hf : first = key
    · subst hf
      by_cases h : k = first <;> simp [put, get?_cons, h]
    · by_cases h : k = first
      · subst h
        simp [put, get?_cons, hf]
      · simp [put, get?_cons, hf, h, ih]

theorem get?_eq_none {entries : Entries α} {key : String} :
    get? entries key = none ↔ key ∉ keys entries := by
  simp only [get?, List.lookup_eq_none_iff, bne_iff_ne, keys, List.mem_map, not_exists, not_and]
  exact forall_congr' fun entry => imp_congr_right fun _ => ne_comm

/-! ## Entries from pairs -/

@[simp] theorem keys_cons (key : String) (value : α) (rest : Entries α) :
    keys ((key, value) :: rest) = key :: keys rest := rfl

@[simp] theorem keys_append (entries more : Entries α) :
    keys (entries ++ more) = keys entries ++ keys more := by
  simp [keys]

/-- A key that is there keeps its place. -/
theorem keys_put_of_mem {key : String} {value : α} {entries : Entries α}
    (known : key ∈ keys entries) : keys (put key value entries) = keys entries := by
  induction entries with
  | nil => simp [keys] at known
  | cons entry rest ih =>
    obtain ⟨k, v⟩ := entry
    by_cases h : k = key
    · simp [put, h]
    · have later : key ∈ keys rest := by simpa [Ne.symm h] using known
      simp [put, h, ih later]

/-- A new key goes to the end. -/
theorem put_of_not_mem {key : String} {value : α} {entries : Entries α}
    (new : key ∉ keys entries) : put key value entries = entries ++ [(key, value)] := by
  induction entries with
  | nil => rfl
  | cons entry rest ih =>
    obtain ⟨k, v⟩ := entry
    simp only [keys_cons, List.mem_cons, not_or] at new
    simp [put, Ne.symm new.1, ih new.2]

/-- Only the pair that is put in is new. -/
theorem mem_put {key : String} {value : α} {entries : Entries α} {entry : String × α}
    (mem : entry ∈ put key value entries) : entry = (key, value) ∨ entry ∈ entries := by
  induction entries with
  | nil => simpa [put] using mem
  | cons first rest ih =>
    obtain ⟨k, v⟩ := first
    rw [put] at mem
    split at mem
    · exact (List.mem_cons.mp mem).imp_right (List.mem_cons_of_mem _)
    · obtain rfl | later := List.mem_cons.mp mem
      · exact .inr List.mem_cons_self
      · exact (ih later).imp_right (List.mem_cons_of_mem _)

theorem nodup_keys_put {entries : Entries α} (unique : (keys entries).Nodup) (key : String)
    (value : α) : (keys (put key value entries)).Nodup := by
  by_cases known : key ∈ keys entries
  · rwa [keys_put_of_mem known]
  · rw [put_of_not_mem known, keys_append, List.nodup_append]
    refine ⟨unique, by simp [keys], fun k mem other last same => known ?_⟩
    obtain rfl : other = key := List.mem_singleton.mp last
    exact same ▸ mem

/-- Each key comes once. -/
theorem nodup_keys_ofPairs (pairs : List (String × α)) : (keys (ofPairs pairs)).Nodup :=
  List.foldlRecOn (motive := fun entries => (keys entries).Nodup) pairs _ .nil
    fun _ unique pair _ => nodup_keys_put unique pair.1 pair.2

/-- Each entry is one of the pairs. -/
theorem mem_of_mem_ofPairs {pairs : List (String × α)} :
    ∀ entry ∈ ofPairs pairs, entry ∈ pairs :=
  List.foldlRecOn (motive := fun entries => ∀ entry ∈ entries, entry ∈ pairs) pairs _ nofun
    fun _ old _ mem _ put => (mem_put put).elim (· ▸ mem) (old _)

/-- Pairs with new and different keys go behind the entries as they are. -/
theorem foldl_put_of_nodup {pairs : List (String × α)} :
    ∀ {entries : Entries α}, (keys (entries ++ pairs)).Nodup →
      pairs.foldl (fun entries pair => put pair.1 pair.2 entries) entries = entries ++ pairs := by
  induction pairs with
  | nil => simp
  | cons pair rest ih =>
    intro entries unique
    have new : pair.1 ∉ keys entries := by
      rw [keys_append, List.nodup_append] at unique
      exact fun known => unique.2.2 _ known pair.1 List.mem_cons_self rfl
    rw [List.append_cons] at unique ⊢
    rw [List.foldl_cons, put_of_not_mem new, ih unique]

/-- Pairs with different keys are entries as they are. -/
theorem ofPairs_of_nodup {pairs : List (String × α)} (unique : (keys pairs).Nodup) :
    ofPairs pairs = pairs :=
  foldl_put_of_nodup unique

end Entries

end WordStrip
