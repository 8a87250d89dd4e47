import Mathlib.Data.List.Forall2
import Mathlib.Data.List.Induction
import Mathlib.Data.List.Nodup
import SlideMerge.Keyed

/-!
# Looking up in keyed lists

A keyed list has each key once (`nodup_keys_ofPairs`), so a value is found under a key if the two
stand there together (`find?_eq_some_iff`). Of several values that have been put under one key, the
last one is found (`find?_ofPairs`). What is put depends on the keys alone, so that values that are
related to each other one by one are related after it, too (`related_ofPairs`).
-/

namespace SlideMerge.Keyed

section Find

variable {α : Type} {entries : Keyed α} {key : String}

theorem find?_eq_none_iff : entries.find? key = none ↔ key ∉ entries.keys := by
  induction entries with
  | nil => simp [keys]
  | cons e rest ih =>
    obtain ⟨k, v⟩ := e
    by_cases h : key = k
    · simp [find?, keys, h]
    · have hk : (key == k) = false := beq_eq_false_iff_ne.2 h
      simpa [find?, keys, List.lookup_cons, hk, h] using ih

theorem find?_append (front back : Keyed α) (key : String) :
    find? (front ++ back) key = (front.find? key).or (back.find? key) :=
  List.lookup_append

/-- **Under distinct keys, a value is found where it stands.** -/
theorem find?_eq_some_iff (hn : entries.keys.Nodup) {value : α} :
    entries.find? key = some value ↔ (key, value) ∈ entries := by
  induction entries with
  | nil => simp
  | cons e rest ih =>
    obtain ⟨k, v⟩ := e
    rw [keys, List.map_cons, List.nodup_cons] at hn
    by_cases h : key = k
    · subst h
      have absent : (key, value) ∉ rest := fun hm => hn.1 (List.mem_map.2 ⟨_, hm, rfl⟩)
      simp [find?, absent, eq_comm]
    · have hk : (key == k) = false := beq_eq_false_iff_ne.2 h
      simpa [find?, List.lookup_cons, hk, h] using ih hn.2

theorem find?_put_of_ne {other : String} {value : α} (h : key ≠ other) :
    (entries.put other value).find? key = entries.find? key := by
  induction entries with
  | nil => simp [put, find?, h]
  | cons e rest ih =>
    obtain ⟨k, v⟩ := e
    by_cases hk : k = other
    · subst hk
      simp [put, find?, List.lookup_cons, beq_eq_false_iff_ne.2 h]
    · simp only [put, hk, if_false, find?, List.lookup_cons] at ih ⊢
      rw [ih]

theorem nodup_keys_put {value : α} (hn : entries.keys.Nodup) :
    (entries.put key value).keys.Nodup := by
  rw [keys_put]
  split_ifs with h
  · exact hn
  · exact List.nodup_append.2 ⟨hn, List.nodup_singleton key, fun k hk k' hk' heq =>
      h (List.mem_singleton.1 hk' ▸ heq ▸ hk)⟩

theorem ofPairs_concat (pairs : List (String × α)) (pair : String × α) :
    ofPairs (pairs ++ [pair]) = (ofPairs pairs).put pair.1 pair.2 := by
  rw [ofPairs, List.foldl_append]
  rfl

theorem nodup_keys_ofPairs (pairs : List (String × α)) : (ofPairs pairs).keys.Nodup := by
  induction pairs using List.reverseRecOn with
  | nil => exact List.nodup_nil
  | append_singleton pairs pair ih =>
    rw [ofPairs_concat]
    exact nodup_keys_put ih

theorem put_of_not_mem (value : α) (h : key ∉ entries.keys) :
    entries.put key value = entries ++ [(key, value)] := by
  induction entries with
  | nil => rfl
  | cons e rest ih =>
    obtain ⟨k, v⟩ := e
    rw [keys, List.map_cons, List.mem_cons, not_or] at h
    rw [put, if_neg (Ne.symm h.1), ih h.2, List.cons_append]

/-- Entries under distinct keys stand as they have been put. -/
theorem ofPairs_of_nodup (hn : entries.keys.Nodup) : ofPairs entries = entries := by
  induction entries using List.reverseRecOn with
  | nil => rfl
  | append_singleton entries e ih =>
    rw [keys, List.map_append, List.nodup_append] at hn
    obtain ⟨front, -, apart⟩ := hn
    have fresh : e.1 ∉ keys entries := fun h => apart e.1 h e.1 (List.mem_singleton_self _) rfl
    rw [ofPairs_concat, ih front, put_of_not_mem e.2 fresh]

theorem mem_keys_ofPairs {pairs : List (String × α)} :
    key ∈ (ofPairs pairs).keys ↔ key ∈ pairs.map Prod.fst := by
  induction pairs using List.reverseRecOn with
  | nil => exact Iff.rfl
  | append_singleton pairs pair ih =>
    rw [ofPairs_concat, keys_put, List.map_append, List.mem_append, List.map_singleton,
      List.mem_singleton, ← ih]
    split_ifs with present
    · constructor
      · exact Or.inl
      · rintro (h | rfl)
        · exact h
        · exact present
    · rw [List.mem_append, List.mem_singleton]

/-- **Of the values that have been put under a key, the last one is found.** -/
theorem find?_ofPairs (pairs : List (String × α)) (key : String) :
    (ofPairs pairs).find? key = (pairs.filter (·.1 = key)).getLast?.map Prod.snd := by
  induction pairs using List.reverseRecOn with
  | nil => rfl
  | append_singleton pairs pair ih =>
    rw [ofPairs_concat, List.filter_append]
    by_cases h : pair.1 = key
    · rw [← h, find?_put_self]
      simp
    · rw [find?_put_of_ne (Ne.symm h), ih]
      simp [h]

end Find

/-! ## Related values -/

section Related

variable {α β : Type} {R : α → β → Prop}

/-- Entries under the same keys whose values are related. -/
def Related (R : α → β → Prop) (entries : Keyed α) (entries' : Keyed β) : Prop :=
  List.Forall₂ (fun e e' => e.1 = e'.1 ∧ R e.2 e'.2) entries entries'

theorem related_put {entries : Keyed α} {entries' : Keyed β} (h : Related R entries entries')
    (key : String) {value : α} {value' : β} (hv : R value value') :
    Related R (entries.put key value) (entries'.put key value') := by
  induction h with
  | nil => exact .cons ⟨rfl, hv⟩ .nil
  | @cons e e' rest rest' he hrest ih =>
    obtain ⟨k, v⟩ := e
    obtain ⟨k', v'⟩ := e'
    obtain ⟨rfl, hv'⟩ : k = k' ∧ R v v' := he
    by_cases same : k = key
    · simp only [put, if_pos same]
      exact .cons ⟨rfl, hv⟩ hrest
    · simp only [put, if_neg same]
      exact .cons ⟨rfl, hv'⟩ ih

/-- **Related values that are put under the same keys stand under the same keys.** -/
theorem related_ofPairs {pairs : List (String × α)} {pairs' : List (String × β)}
    (h : Related R pairs pairs') : Related R (ofPairs pairs) (ofPairs pairs') := by
  have fold {entries : Keyed α} {entries' : Keyed β} (start : Related R entries entries') :
      Related R (pairs.foldl (fun entries e => entries.put e.1 e.2) entries)
        (pairs'.foldl (fun entries e => entries.put e.1 e.2) entries') := by
    induction h generalizing entries entries' with
    | nil => exact start
    | @cons e e' rest rest' he hrest ih =>
      obtain ⟨k, v⟩ := e
      obtain ⟨k', v'⟩ := e'
      obtain ⟨rfl, hv⟩ : k = k' ∧ R v v' := he
      exact ih (related_put start k hv)
  exact fold .nil

end Related

end SlideMerge.Keyed
