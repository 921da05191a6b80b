/-!
# Looking up in lists of entries

In a list of entries with distinct keys an entry is found under its key.  Dropping the entries of
one key changes nothing under another.
-/

namespace PodSizing

variable {κ α : Type} [BEq κ] [LawfulBEq κ] {entries : List (κ × α)} {key : κ}

theorem lookup_cons_eq_ite [DecidableEq κ] (key place : κ) (value : α) (rest : List (κ × α)) :
    ((place, value) :: rest).lookup key = if key = place then some value else rest.lookup key := by
  by_cases same : key = place
  · rw [if_pos same, same, List.lookup_cons_self]
  · rw [if_neg same, List.lookup_cons, beq_eq_false_iff_ne.mpr same]

/-- Nothing is found under a key that no entry has. -/
theorem lookup_eq_none_of_notMem (absent : key ∉ entries.map Prod.fst) :
    entries.lookup key = none := by
  rw [List.lookup_eq_none_iff]
  intro entry mem
  rw [bne_iff_ne]
  intro same
  exact absent (same ▸ List.mem_map_of_mem mem)

/-- What is found under a key is what an entry has there. -/
theorem lookup_eq_some_iff_mem (distinct : (entries.map Prod.fst).Nodup) {value : α} :
    entries.lookup key = some value ↔ (key, value) ∈ entries := by
  induction entries with
  | nil => simp
  | cons head rest ih =>
      obtain ⟨place, stored⟩ := head
      rw [List.map_cons, List.nodup_cons] at distinct
      by_cases eq : key = place
      · subst place
        have absent : (key, value) ∉ rest :=
          fun mem => distinct.1 (List.mem_map.mpr ⟨_, mem, rfl⟩)
        simp [absent, eq_comm]
      · simp [List.lookup_cons, beq_eq_false_iff_ne.2 eq, eq, ih distinct.2]

omit [LawfulBEq κ] in
/-- Changing what the entries hold changes what is found. -/
theorem lookup_map_value {β : Type} (f : α → β) (entries : List (κ × α)) (key : κ) :
    (entries.map fun entry => (entry.1, f entry.2)).lookup key = (entries.lookup key).map f := by
  induction entries with
  | nil => rfl
  | cons head rest ih =>
      obtain ⟨place, stored⟩ := head
      cases same : key == place with
      | true => simp [List.lookup_cons, same]
      | false => simp [List.lookup_cons, same, ih]

theorem lookup_filter_ne {other : κ} (ne : other ≠ key) :
    (entries.filter fun entry => entry.1 != key).lookup other = entries.lookup other := by
  induction entries with
  | nil => rfl
  | cons entry rest ih =>
      obtain ⟨place, stored⟩ := entry
      by_cases eq : place = key
      · subst eq
        simp [List.lookup_cons, beq_eq_false_iff_ne.2 ne, ih]
      · simp [eq, List.lookup_cons, ih]

end PodSizing
