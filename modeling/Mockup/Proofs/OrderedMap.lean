import Mathlib.Data.List.Nodup
import Mathlib.Tactic.Common
import Mockup.OrderedMap

/-!
# Entries of ordered maps

What a map holds after writing one more entry, and after a whole history of writings: each key at
the place of its first writing, with the value of its last.
-/

namespace Mockup.OrderedMap

variable {κ α : Type}

theorem ext {m n : OrderedMap κ α} (h : m.entries = n.entries) : m = n := by
  cases m
  cases n
  cases h
  rfl

/-- The map with other keys, different ones for different ones. -/
def mapKeys {μ : Type} (f : κ → μ) (hf : f.Injective) (m : OrderedMap κ α) : OrderedMap μ α where
  entries := m.entries.map fun entry => (f entry.1, entry.2)
  nodup := by
    have hkeys : (m.entries.map fun entry => (f entry.1, entry.2)).map Prod.fst =
        (m.entries.map Prod.fst).map f := by
      rw [List.map_map, List.map_map]
      rfl
    rw [hkeys]
    exact List.Nodup.map hf m.nodup

variable [DecidableEq κ]

theorem get?_mapKeys {μ : Type} [DecidableEq μ] {f : κ → μ} (hf : f.Injective)
    (m : OrderedMap κ α) (key : κ) : (m.mapKeys f hf).get? (f key) = m.get? key := by
  have hlookup (entries : List (κ × α)) :
      (entries.map fun entry => (f entry.1, entry.2)).lookup (f key) = entries.lookup key := by
    induction entries with
    | nil => rfl
    | cons entry entries ih =>
      have hkey : (f key == f entry.1) = (key == entry.1) := by
        rw [Bool.eq_iff_iff, beq_iff_eq, beq_iff_eq, hf.eq_iff]
      rw [List.map_cons, List.lookup_cons, List.lookup_cons, ih, hkey]
  exact hlookup m.entries

theorem entries_insert_of_notMem {m : OrderedMap κ α} {key : κ}
    (h : key ∉ m.entries.map Prod.fst) (value : α) :
    (m.insert key value).entries = m.entries ++ [(key, value)] := by
  have hwrite (entries : List (κ × α)) (h : key ∉ entries.map Prod.fst) :
      writeEntry key value entries = entries ++ [(key, value)] := by
    induction entries with
    | nil => rfl
    | cons entry rest ih =>
      rw [List.map_cons, List.mem_cons, not_or] at h
      rw [writeEntry, if_neg (Ne.symm h.1), ih h.2, List.cons_append]
  exact hwrite m.entries h

theorem entries_foldl_insert {entries : List (κ × α)} (hnodup : (entries.map Prod.fst).Nodup)
    (start : OrderedMap κ α) (hnew : ∀ entry ∈ entries, entry.1 ∉ start.entries.map Prod.fst) :
    (entries.foldl (fun m entry => m.insert entry.1 entry.2) start).entries =
      start.entries ++ entries := by
  induction entries generalizing start with
  | nil => exact (List.append_nil _).symm
  | cons entry rest ih =>
    obtain ⟨k, a⟩ := entry
    rw [List.map_cons, List.nodup_cons] at hnodup
    rw [List.forall_mem_cons] at hnew
    have hinsert := entries_insert_of_notMem hnew.1 a
    have hrest : ∀ entry ∈ rest, entry.1 ∉ (start.insert k a).entries.map Prod.fst := by
      intro entry hentry
      rw [hinsert, List.map_append, List.mem_append, not_or]
      refine ⟨hnew.2 entry hentry, fun hmem => hnodup.1 ?_⟩
      rw [← List.mem_singleton.1 hmem]
      exact List.mem_map_of_mem hentry
    rw [List.foldl_cons, ih hnodup.2 _ hrest, hinsert, List.append_assoc, List.singleton_append]

theorem ofList_entries (m : OrderedMap κ α) : ofList m.entries = m :=
  ext ((entries_foldl_insert m.nodup empty fun _ _ => List.not_mem_nil).trans (List.nil_append _))

theorem keys_insert (m : OrderedMap κ α) (key : κ) (value : α) :
    (m.insert key value).keys = if key ∈ m.keys then m.keys else m.keys ++ [key] :=
  keys_writeEntry key value m.entries

private theorem lookup_cons_eq_ite (key other : κ) (value : α) (rest : List (κ × α)) :
    ((key, value) :: rest).lookup other =
      if other = key then some value else rest.lookup other := by
  rw [List.lookup_cons]
  by_cases h : other = key
  · simp [h]
  · rw [beq_eq_false_iff_ne.2 h, if_neg h]

theorem get?_insert (m : OrderedMap κ α) (key other : κ) (value : α) :
    (m.insert key value).get? other = if other = key then some value else m.get? other := by
  have hwrite (entries : List (κ × α)) : (writeEntry key value entries).lookup other =
      if other = key then some value else entries.lookup other := by
    induction entries with
    | nil => rw [writeEntry, lookup_cons_eq_ite]
    | cons entry rest ih =>
      obtain ⟨k, v⟩ := entry
      by_cases hk : k = key
      · subst hk
        rw [writeEntry, if_pos rfl, lookup_cons_eq_ite, lookup_cons_eq_ite]
        by_cases h : other = k <;> simp [h]
      · rw [writeEntry, if_neg hk, lookup_cons_eq_ite, lookup_cons_eq_ite, ih]
        by_cases h : other = k
        · subst h
          simp [hk]
        · simp [h]
  exact hwrite m.entries

/-- A map is what a history of writings leaves: its keys are in the order of their first writing,
and each has the value that was written for it last. -/
structure Records (m : OrderedMap κ α) (history : List (κ × α)) : Prop where
  keys_eq : m.keys = (history.map Prod.fst).eraseDups
  get?_eq : ∀ key, m.get? key = history.reverse.lookup key

theorem records_empty : (empty : OrderedMap κ α).Records [] :=
  ⟨rfl, fun _ => rfl⟩

theorem Records.insert {m : OrderedMap κ α} {history : List (κ × α)} (h : m.Records history)
    (key : κ) (value : α) : (m.insert key value).Records (history ++ [(key, value)]) where
  keys_eq := by
    have hnew : ([key].removeAll (history.map Prod.fst)).eraseDups =
        if key ∈ history.map Prod.fst then [] else [key] := by
      by_cases hk : key ∈ history.map Prod.fst
      · rw [if_pos hk, List.removeAll, List.filter_cons_of_neg (by simpa using hk)]
        rfl
      · rw [if_neg hk, List.removeAll, List.filter_cons_of_pos (by simpa using hk)]
        rfl
    rw [keys_insert, h.keys_eq, List.map_append, List.map_singleton, List.eraseDups_append, hnew]
    simp only [List.mem_eraseDups]
    split
    · rw [List.append_nil]
    · rfl
  get?_eq other := by
    rw [get?_insert, h.get?_eq, List.reverse_append, List.reverse_singleton,
      List.singleton_append, lookup_cons_eq_ite]

theorem Records.foldl {m : OrderedMap κ α} {history : List (κ × α)} (h : m.Records history)
    (entries : List (κ × α)) :
    (entries.foldl (fun m entry => m.insert entry.1 entry.2) m).Records (history ++ entries) := by
  induction entries generalizing m history with
  | nil => simpa using h
  | cons entry rest ih => simpa using ih (h.insert entry.1 entry.2)

theorem records_ofList (history : List (κ × α)) : (ofList history).Records history :=
  records_empty.foldl history

end Mockup.OrderedMap
