import PodSizing.Json.Record
import PodSizing.Proofs.Json

/-!
# Proper JSON values

A value is proper when it can stand in a text: its integers have 64 bits, and its other numbers are
finite.  The keys of its objects may come in any order.

The fields of a record are found in the object that `ofFields` makes of them, in whatever order
they are written; an object whose keys rise already is made of its own fields.
-/

namespace PodSizing.Json

/-- A value that can stand in a JSON text. -/
inductive IsProper : Json → Prop where
  | null : IsProper .null
  | bool (value : Bool) : IsProper (.bool value)
  | integer {value : Int} (least : -(Nat.pow 2 63) ≤ value) (most : value < Nat.pow 2 64) :
      IsProper (.number (.integer value))
  | real {value : Binary64} (finite : value.isFinite = true) : IsProper (.number (.real value))
  | string (value : String) : IsProper (.string value)
  | array {items : List Json} (items_proper : ∀ item ∈ items, IsProper item) :
      IsProper (.array items)
  | object {fields : List (String × Json)}
      (fields_proper : ∀ field ∈ fields, IsProper field.2) : IsProper (.object fields)

/-! ### Sorted fields -/

/-- The keys of some fields rise, so that none of them is repeated. -/
def Rising {α : Type} (fields : List (String × α)) : Prop :=
  fields.Pairwise fun field later => field.1 < later.1

theorem mem_insertField {key : String} {value : Json} {fields : List (String × Json)}
    {field : String × Json} (mem : field ∈ insertField key value fields) :
    field = (key, value) ∨ field ∈ fields := by
  induction fields with
  | nil => exact .inl (List.mem_singleton.mp mem)
  | cons first rest ih =>
      obtain ⟨firstKey, firstValue⟩ := first
      rw [insertField] at mem
      split at mem
      · exact List.mem_cons.mp mem
      · split at mem
        · exact (List.mem_cons.mp mem).imp_right (List.mem_cons_of_mem _)
        · rcases List.mem_cons.mp mem with rfl | later
          · exact .inr List.mem_cons_self
          · exact (ih later).imp_right (List.mem_cons_of_mem _)

private theorem lt_of_not_lt_of_ne {key other : String} (notLess : ¬ key < other)
    (ne : key ≠ other) : other < key :=
  Decidable.byContradiction fun notGreater =>
    ne (String.le_antisymm (String.not_lt.mp notGreater) (String.not_lt.mp notLess))

theorem rising_insertField (key : String) (value : Json) {fields : List (String × Json)}
    (rising : Rising fields) : Rising (insertField key value fields) := by
  induction fields with
  | nil => exact List.pairwise_singleton _ _
  | cons first rest ih =>
      obtain ⟨firstKey, firstValue⟩ := first
      obtain ⟨first_lt, restRising⟩ := List.pairwise_cons.mp rising
      rw [insertField]
      split
      · rename_i less
        refine List.pairwise_cons.mpr ⟨?_, rising⟩
        intro later mem
        rcases List.mem_cons.mp mem with rfl | mem
        · exact less
        · exact String.lt_trans less (first_lt later mem)
      · rename_i notLess
        split
        · rename_i same
          exact List.pairwise_cons.mpr ⟨fun later mem => same ▸ first_lt later mem, restRising⟩
        · rename_i ne
          refine List.pairwise_cons.mpr ⟨?_, ih restRising⟩
          intro later mem
          rcases mem_insertField mem with rfl | mem
          · exact lt_of_not_lt_of_ne notLess ne
          · exact first_lt later mem

/-- Sorting drops fields whose keys are repeated, and adds none. -/
theorem mem_sortFields {fields : List (String × Json)} {field : String × Json}
    (mem : field ∈ sortFields fields) : field ∈ fields := by
  suffices keeps : ∀ sorted : List (String × Json),
      field ∈ fields.foldl (fun sorted field => insertField field.1 field.2 sorted) sorted →
        field ∈ sorted ∨ field ∈ fields from (keeps [] mem).resolve_left List.not_mem_nil
  clear mem
  induction fields with
  | nil => exact fun sorted mem => .inl mem
  | cons first rest ih =>
      intro sorted mem
      rcases ih _ mem with inserted | later
      · rcases mem_insertField inserted with rfl | earlier
        · exact .inr List.mem_cons_self
        · exact .inl earlier
      · exact .inr (List.mem_cons_of_mem first later)

theorem rising_sortFields (fields : List (String × Json)) : Rising (sortFields fields) := by
  suffices keeps : ∀ sorted : List (String × Json), Rising sorted →
      Rising (fields.foldl (fun sorted field => insertField field.1 field.2 sorted) sorted) from
    keeps [] .nil
  induction fields with
  | nil => exact fun sorted rising => rising
  | cons first rest ih => exact fun sorted rising => ih _ (rising_insertField _ _ rising)

/-- The object that is made of some fields is proper if the fields are. -/
theorem isProper_ofFields {fields : List (String × Json)}
    (fields_proper : ∀ field ∈ fields, field.2.IsProper) : (ofFields fields).IsProper :=
  .object fun field mem => fields_proper field (mem_sortFields mem)

private theorem insertField_of_lt {key : String} (value : Json) {fields : List (String × Json)}
    (lt : ∀ field ∈ fields, field.1 < key) :
    insertField key value fields = fields ++ [(key, value)] := by
  induction fields with
  | nil => rfl
  | cons first rest ih =>
      obtain ⟨first_lt, rest_lt⟩ := List.forall_mem_cons.mp lt
      have notLess : ¬ key < first.1 := String.lt_asymm first_lt
      have ne : key ≠ first.1 := fun same => String.lt_irrefl key (same ▸ first_lt)
      rw [insertField, if_neg notLess, if_neg ne, ih rest_lt, List.cons_append]

/-- Fields whose keys rise are sorted. -/
theorem sortFields_of_rising {fields : List (String × Json)} (rising : Rising fields) :
    sortFields fields = fields := by
  suffices keeps : ∀ sorted : List (String × Json), Rising (sorted ++ fields) →
      fields.foldl (fun sorted field => insertField field.1 field.2 sorted) sorted =
        sorted ++ fields from keeps [] rising
  clear rising
  intro sorted
  induction fields generalizing sorted with
  | nil => exact fun _ => (List.append_nil sorted).symm
  | cons field rest ih =>
      intro all
      have below : ∀ earlier ∈ sorted, earlier.1 < field.1 := fun earlier mem =>
        (List.pairwise_append.mp all).2.2 earlier mem field List.mem_cons_self
      rw [List.foldl_cons, insertField_of_lt field.2 below]
      have shifted : sorted ++ field :: rest = sorted ++ [field] ++ rest :=
        (List.append_cons sorted field rest)
      rw [shifted] at all ⊢
      exact ih _ all

/-! ### Entries of records -/

/-- What stands for a field that may be missing. -/
def Entry.ofOption : Option Json → Entry
  | some json => .value json
  | none => .missing

@[simp]
theorem Entry.ofOption_some (json : Json) : ofOption (some json) = .value json := rfl

@[simp]
theorem Entry.ofOption_none : ofOption none = .missing := rfl

/-- The JSON of an entry is proper, if it has any. -/
def Entry.IsProper (entry : Entry) : Prop := ∀ json, entry = .value json → json.IsProper

/-- The fields that an object is made of are found in it. -/
theorem entries?_ofFields (names : List String) {fields : List (String × Json)}
    (distinct : (fields.map Prod.fst).Nodup) :
    entries? names (ofFields fields) =
      some (names.map fun name => Entry.ofOption (fields.lookup name)) := by
  have found : ∀ name, (match (ofFields fields).field? name with
      | some json => Entry.value json
      | none => .missing) = Entry.ofOption (fields.lookup name) := by
    intro name
    rw [field?_ofFields distinct]
    cases fields.lookup name <;> rfl
  exact congrArg some (List.map_congr_left fun name _ => found name)

private theorem mem_of_lookup_eq_some {fields : List (String × Json)} {name : String}
    {json : Json} (found : fields.lookup name = some json) : (name, json) ∈ fields := by
  obtain ⟨before, after, rfl, -⟩ := List.lookup_eq_some_iff.mp found
  exact List.mem_append_right before List.mem_cons_self

/-- What stands for the fields of a proper value is proper. -/
theorem IsProper.entries {names : List String} {json : Json} {entries : List Entry}
    (proper : json.IsProper) (read : entries? names json = some entries) :
    ∀ entry ∈ entries, entry.IsProper := by
  cases proper with
  | null | bool | integer | real | string => exact absurd read (by simp [entries?])
  | object fields_proper =>
      obtain rfl := Option.some.inj read
      intro entry mem json value
      obtain ⟨name, -, rfl⟩ := List.mem_map.mp mem
      split at value
      · rename_i found
        obtain rfl := Entry.value.inj value
        exact fields_proper _ (mem_of_lookup_eq_some found)
      · exact absurd value (by simp)
  | array items_proper =>
      rw [entries?] at read
      split at read
      · exact absurd read (by simp)
      · obtain rfl := Option.some.inj read
        intro entry mem json value
        rcases List.mem_append.mp mem with given | missing
        · obtain ⟨item, itemMem, rfl⟩ := List.mem_map.mp given
          obtain rfl := Entry.value.inj value
          exact items_proper _ itemMem
        · rw [List.eq_of_mem_replicate missing] at value
          exact absurd value (by simp)

end PodSizing.Json
