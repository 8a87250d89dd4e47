/-!
# Keyed lists

A keyed list holds its entries in the order in which their keys first came. Putting a value under
a key that is there already replaces the value where it stands.
-/

namespace SlideMerge

/-- Entries under text keys, in the order of their insertion. -/
abbrev Keyed (α : Type) := List (String × α)

namespace Keyed

variable {α : Type}

/-- The value under a key. -/
def find? (entries : Keyed α) (key : String) : Option α :=
  entries.lookup key

/-- Puts a value under a key. -/
def put : Keyed α → String → α → Keyed α
  | [], key, value => [(key, value)]
  | (k, v) :: rest, key, value =>
    if k = key then (k, value) :: rest else (k, v) :: put rest key value

/-- The keyed list that results from putting pairs one after another. -/
def ofPairs (pairs : List (String × α)) : Keyed α :=
  pairs.foldl (fun entries (key, value) => entries.put key value) []

/-- The keys, in order. -/
def keys (entries : Keyed α) : List String :=
  entries.map Prod.fst

@[simp] theorem find?_nil (key : String) : find? ([] : Keyed α) key = none := rfl

theorem find?_put_self (entries : Keyed α) (key : String) (value : α) :
    (entries.put key value).find? key = some value := by
  induction entries with
  | nil => simp [put, find?]
  | cons e rest ih =>
    obtain ⟨k, v⟩ := e
    by_cases h : k = key
    · simp [put, find?, h]
    · have hk : (key == k) = false := by simpa using Ne.symm h
      simpa [put, find?, h, List.lookup_cons, hk] using ih

theorem keys_put (entries : Keyed α) (key : String) (value : α) :
    (entries.put key value).keys =
      if key ∈ entries.keys then entries.keys else entries.keys ++ [key] := by
  induction entries with
  | nil => simp [put, keys]
  | cons e rest ih =>
    obtain ⟨k, v⟩ := e
    by_cases h : k = key
    · simp [put, keys, h]
    · simp only [keys] at ih
      simp only [put, h, if_false, keys, List.map_cons, List.mem_cons, Ne.symm h, false_or, ih]
      split <;> simp [*]

theorem mem_put {entries : Keyed α} {key : String} {value : α} {e : String × α}
    (h : e ∈ entries.put key value) : e.2 = value ∨ e ∈ entries := by
  induction entries with
  | nil => exact Or.inl (congrArg Prod.snd (List.mem_singleton.1 h))
  | cons first rest ih =>
    obtain ⟨k, v⟩ := first
    rw [put] at h
    split at h
    · rcases List.mem_cons.1 h with rfl | h
      · exact Or.inl rfl
      · exact Or.inr (List.mem_cons_of_mem _ h)
    · rcases List.mem_cons.1 h with rfl | h
      · exact Or.inr List.mem_cons_self
      · exact (ih h).imp_right (List.mem_cons_of_mem _)

theorem mem_foldl_put {pairs : List (String × α)} {entries : Keyed α} {e : String × α}
    (h : e ∈ pairs.foldl (fun entries (key, value) => entries.put key value) entries) :
    (∃ pair ∈ pairs, e.2 = pair.2) ∨ e ∈ entries := by
  induction pairs generalizing entries with
  | nil => exact Or.inr h
  | cons pair rest ih =>
    rcases ih h with ⟨other, ho, he⟩ | he
    · exact Or.inl ⟨other, List.mem_cons_of_mem _ ho, he⟩
    · exact (mem_put he).imp_left fun hv => ⟨pair, List.mem_cons_self, hv⟩

theorem exists_of_mem_ofPairs {pairs : List (String × α)} {e : String × α}
    (h : e ∈ ofPairs pairs) : ∃ pair ∈ pairs, e.2 = pair.2 :=
  (mem_foldl_put h).resolve_right List.not_mem_nil

end Keyed

end SlideMerge
