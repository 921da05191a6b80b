/-!
# Tables by position

A table holds at most one value at each position and lists its values in rising order of their
positions.  The order in which they were written does not show: two tables with the same look-ups
are equal.
-/

namespace PodSizing

/-- Values at positions, in rising order of the positions. -/
structure PositionTable (α : Type) where
  entries : List (Nat × α)
  rising : entries.Pairwise fun first second => first.1 < second.1

namespace PositionTable

variable {α : Type}

/-- Writes a value into a list in rising order; what stood at its position is replaced. -/
def insertInto (position : Nat) (value : α) : List (Nat × α) → List (Nat × α)
  | [] => [(position, value)]
  | entry :: rest =>
      if position < entry.1 then (position, value) :: entry :: rest
      else if position = entry.1 then (position, value) :: rest
      else entry :: insertInto position value rest

theorem mem_insertInto {position : Nat} {value : α} {entries : List (Nat × α)}
    {entry : Nat × α} (h : entry ∈ insertInto position value entries) :
    entry = (position, value) ∨ entry ∈ entries := by
  induction entries with
  | nil => exact .inl (by simpa [insertInto] using h)
  | cons head rest ih =>
      simp only [insertInto] at h
      split at h
      · exact (List.mem_cons.mp h)
      · split at h
        · rcases List.mem_cons.mp h with eq | mem
          · exact .inl eq
          · exact .inr (List.mem_cons_of_mem head mem)
        · rcases List.mem_cons.mp h with eq | mem
          · exact .inr (eq ▸ List.mem_cons_self)
          · exact (ih mem).imp id (List.mem_cons_of_mem head)

theorem rising_insertInto (position : Nat) (value : α) {entries : List (Nat × α)}
    (rising : entries.Pairwise fun first second => first.1 < second.1) :
    (insertInto position value entries).Pairwise fun first second => first.1 < second.1 := by
  induction entries with
  | nil => simp [insertInto]
  | cons head rest ih =>
      obtain ⟨below, restRising⟩ := List.pairwise_cons.mp rising
      simp only [insertInto]
      split
      · rename_i before
        refine List.pairwise_cons.mpr ⟨?_, rising⟩
        intro entry mem
        rcases List.mem_cons.mp mem with eq | inRest
        · exact eq ▸ before
        · exact Nat.lt_trans before (below entry inRest)
      · split
        · rename_i same
          exact List.pairwise_cons.mpr ⟨fun entry mem => same ▸ below entry mem, restRising⟩
        · refine List.pairwise_cons.mpr ⟨?_, ih restRising⟩
          intro entry mem
          rcases mem_insertInto mem with eq | inRest
          · subst eq
            show head.1 < position
            omega
          · exact below entry inRest

theorem lookup_insertInto (position other : Nat) (value : α) (entries : List (Nat × α)) :
    (insertInto position value entries).lookup other =
      if other = position then some value else entries.lookup other := by
  induction entries with
  | nil =>
      by_cases eq : other = position
      · simp [insertInto, eq]
      · simp [insertInto, List.lookup_cons, eq, beq_eq_false_iff_ne.2 eq]
  | cons head rest ih =>
      obtain ⟨place, stored⟩ := head
      simp only [insertInto]
      split
      · by_cases eq : other = position
        · simp [eq]
        · simp [List.lookup_cons, eq, beq_eq_false_iff_ne.2 eq]
      · split
        · rename_i same
          by_cases eq : other = position
          · simp [eq]
          · simp [List.lookup_cons, eq, ← same, beq_eq_false_iff_ne.2 eq]
        · rename_i different
          rw [List.lookup_cons, List.lookup_cons, ih]
          by_cases eq : other = position
          · have ne : (other == place) = false := beq_eq_false_iff_ne.2 (eq ▸ different)
            simp [eq, eq ▸ ne]
          · simp [eq]

private theorem lookup_eq_none_of_lt {position : Nat} {entries : List (Nat × α)}
    (below : ∀ entry ∈ entries, position < entry.1) : entries.lookup position = none := by
  rw [List.lookup_eq_none_iff]
  intro entry mem
  have := below entry mem
  simp only [bne_iff_ne, ne_eq]
  omega

private theorem eq_of_lookup_eq {left right : List (Nat × α)}
    (leftRising : left.Pairwise fun first second => first.1 < second.1)
    (rightRising : right.Pairwise fun first second => first.1 < second.1)
    (same : ∀ position, left.lookup position = right.lookup position) : left = right := by
  induction left generalizing right with
  | nil =>
      cases right with
      | nil => rfl
      | cons head rest =>
          obtain ⟨position, value⟩ := head
          simpa using same position
  | cons head rest ih =>
      obtain ⟨position, value⟩ := head
      obtain ⟨below, restRising⟩ := List.pairwise_cons.mp leftRising
      cases right with
      | nil => simpa using same position
      | cons other others =>
          obtain ⟨place, stored⟩ := other
          obtain ⟨above, othersRising⟩ := List.pairwise_cons.mp rightRising
          have places : position = place := by
            rcases Nat.lt_trichotomy position place with lt | eq | gt
            · have absent : ((place, stored) :: others).lookup position = none := by
                apply lookup_eq_none_of_lt
                intro entry mem
                rcases List.mem_cons.mp mem with eq | inRest
                · exact eq ▸ lt
                · exact Nat.lt_trans lt (above entry inRest)
              simpa [absent] using same position
            · exact eq
            · have absent : ((position, value) :: rest).lookup place = none := by
                apply lookup_eq_none_of_lt
                intro entry mem
                rcases List.mem_cons.mp mem with eq | inRest
                · exact eq ▸ gt
                · exact Nat.lt_trans gt (below entry inRest)
              simpa [absent] using (same place).symm
          subst place
          have values : value = stored := by simpa using same position
          subst stored
          have rests : ∀ query, rest.lookup query = others.lookup query := by
            intro query
            by_cases eq : query = position
            · subst query
              rw [lookup_eq_none_of_lt below, lookup_eq_none_of_lt above]
            · simpa [List.lookup_cons, beq_eq_false_iff_ne.2 eq] using same query
          rw [ih restRising othersRising rests]

/-- Nothing is written. -/
def empty : PositionTable α := ⟨[], List.Pairwise.nil⟩

/-- The value at a position. -/
def get? (table : PositionTable α) (position : Nat) : Option α := table.entries.lookup position

/-- The values in the order of their positions. -/
def values (table : PositionTable α) : List α := table.entries.map Prod.snd

/-- Writes a value; what stood at its position is replaced. -/
def insert (table : PositionTable α) (position : Nat) (value : α) : PositionTable α :=
  ⟨insertInto position value table.entries, rising_insertInto position value table.rising⟩

/-- Writes a value where there is none. -/
def insertIfNew (table : PositionTable α) (position : Nat) (value : α) : PositionTable α :=
  if (table.get? position).isSome then table else table.insert position value

/-- Writes all values, one after the other. -/
def insertMany (table : PositionTable α) (entries : List (Nat × α)) : PositionTable α :=
  entries.foldl (fun table entry => table.insert entry.1 entry.2) table

/-- Writes those values for whose positions there is none. -/
def fill (table : PositionTable α) (entries : List (Nat × α)) : PositionTable α :=
  entries.foldl (fun table entry => table.insertIfNew entry.1 entry.2) table

@[simp]
theorem get?_empty (position : Nat) : (empty : PositionTable α).get? position = none := rfl

theorem get?_insert (table : PositionTable α) (position other : Nat) (value : α) :
    (table.insert position value).get? other =
      if other = position then some value else table.get? other :=
  lookup_insertInto position other value table.entries

theorem get?_insertIfNew (table : PositionTable α) (position other : Nat) (value : α) :
    (table.insertIfNew position value).get? other =
      if other = position then some ((table.get? position).getD value) else table.get? other := by
  simp only [insertIfNew]
  cases found : table.get? position with
  | some stored =>
      by_cases eq : other = position
      · simp [eq, found]
      · simp [eq]
  | none =>
      simp [get?_insert]

/-- Tables with the same look-ups are equal. -/
theorem ext_get? {left right : PositionTable α}
    (same : ∀ position, left.get? position = right.get? position) : left = right := by
  obtain ⟨leftEntries, leftRising⟩ := left
  obtain ⟨rightEntries, rightRising⟩ := right
  have entries : leftEntries = rightEntries := eq_of_lookup_eq leftRising rightRising same
  subst rightEntries
  rfl

theorem get?_insertMany (table : PositionTable α) {entries : List (Nat × α)}
    (distinct : (entries.map Prod.fst).Nodup) (position : Nat) :
    (table.insertMany entries).get? position =
      (entries.lookup position).or (table.get? position) := by
  induction entries generalizing table with
  | nil => rfl
  | cons head rest ih =>
      obtain ⟨place, value⟩ := head
      simp only [List.map_cons, List.nodup_cons] at distinct
      rw [insertMany, List.foldl_cons, ← insertMany, ih _ distinct.2, get?_insert]
      by_cases eq : position = place
      · subst place
        have absent : rest.lookup position = none := by
          rw [List.lookup_eq_none_iff]
          intro entry mem
          rw [bne_iff_ne]
          rintro rfl
          exact distinct.1 (List.mem_map_of_mem mem)
        simp [absent]
      · simp [List.lookup_cons, eq, beq_eq_false_iff_ne.2 eq]

theorem get?_fill (table : PositionTable α) (entries : List (Nat × α)) (position : Nat) :
    (table.fill entries).get? position =
      (table.get? position).or (entries.lookup position) := by
  induction entries generalizing table with
  | nil => simp [fill]
  | cons head rest ih =>
      obtain ⟨place, value⟩ := head
      rw [fill, List.foldl_cons, ← fill, ih, get?_insertIfNew]
      by_cases eq : position = place
      · subst place
        cases table.get? position <;> simp
      · simp [List.lookup_cons, eq, beq_eq_false_iff_ne.2 eq]

end PositionTable

end PodSizing
