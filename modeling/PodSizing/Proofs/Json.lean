import PodSizing.Json.Cluster
import PodSizing.Proofs.Lookup

/-!
# Objects and maps of texts

An object that is made of fields with distinct keys has these fields, whatever their order, and a
map of texts is read as it was written.
-/

namespace PodSizing

namespace Json

private theorem lookup_foldl_insertField {fields : List (String × Json)}
    (distinct : (fields.map Prod.fst).Nodup) (sorted : List (String × Json)) (key : String) :
    (fields.foldl (fun sorted field => insertField field.1 field.2 sorted) sorted).lookup key =
      (fields.lookup key).or (sorted.lookup key) := by
  induction fields generalizing sorted with
  | nil => rfl
  | cons field rest ih =>
      obtain ⟨name, value⟩ := field
      rw [List.map_cons, List.nodup_cons] at distinct
      rw [List.foldl_cons, ih distinct.2]
      by_cases same : key = name
      · subst same
        rw [lookup_eq_none_of_notMem distinct.1, lookup_insertField_self, List.lookup_cons_self]
        rfl
      · rw [lookup_insertField_ne same, List.lookup_cons, beq_eq_false_iff_ne.mpr same]

/-- Each field of an object that is made of fields with distinct keys is found. -/
theorem field?_ofFields {fields : List (String × Json)} (distinct : (fields.map Prod.fst).Nodup)
    (key : String) : (ofFields fields).field? key = fields.lookup key := by
  have found := lookup_foldl_insertField distinct [] key
  rwa [List.lookup_nil, Option.or_none] at found

/-- Texts under names as fields. -/
def textFields (texts : List (String × String)) : List (String × Json) :=
  texts.map fun (name, text) => (name, .string text)

theorem lookup_textFields (texts : List (String × String)) (name : String) :
    (textFields texts).lookup name = (texts.lookup name).map .string := by
  induction texts with
  | nil => rfl
  | cons entry rest ih =>
      obtain ⟨key, text⟩ := entry
      rw [textFields, List.map_cons, List.lookup_cons, List.lookup_cons, ← textFields, ih]
      cases name == key <;> rfl

private theorem exists_textFields_insertField (name text : String)
    (texts : List (String × String)) :
    ∃ more, insertField name (.string text) (textFields texts) = textFields more := by
  induction texts with
  | nil => exact ⟨[(name, text)], rfl⟩
  | cons entry rest ih =>
      obtain ⟨key, other⟩ := entry
      obtain ⟨more, inserted⟩ := ih
      have cons : textFields ((key, other) :: rest) = (key, .string other) :: textFields rest := rfl
      rw [cons, insertField]
      split
      · exact ⟨(name, text) :: (key, other) :: rest, rfl⟩
      · split
        · exact ⟨(name, text) :: rest, rfl⟩
        · exact ⟨(key, other) :: more, by rw [inserted]; rfl⟩

/-- An object of texts has nothing but texts. -/
private theorem exists_textFields_foldl (texts sorted : List (String × String)) :
    ∃ more, (textFields texts).foldl (fun sorted field => insertField field.1 field.2 sorted)
      (textFields sorted) = textFields more := by
  induction texts generalizing sorted with
  | nil => exact ⟨sorted, rfl⟩
  | cons entry rest ih =>
      obtain ⟨more, inserted⟩ := exists_textFields_insertField entry.1 entry.2 sorted
      obtain ⟨all, folded⟩ := ih more
      exact ⟨all, by rw [← folded, ← inserted]; rfl⟩

end Json

namespace ClusterObject

open Json

theorem asTextMap?_textFields (texts : List (String × String)) :
    asTextMap? (.object (textFields texts)) = some texts := by
  show (textFields texts).mapM (fun field => (asText? field.2).map (field.1, ·)) = some texts
  induction texts with
  | nil => rfl
  | cons entry rest ih =>
      rw [textFields, List.map_cons, List.mapM_cons, ← textFields, ih]
      rfl

/-- A map of texts is read as it was written. -/
theorem exists_asTextMap?_ofFields {texts : List (String × String)}
    (distinct : (texts.map Prod.fst).Nodup) :
    ∃ read, asTextMap? (ofFields (textFields texts)) = some read ∧
      ∀ name, read.lookup name = texts.lookup name := by
  obtain ⟨read, sorted⟩ := exists_textFields_foldl texts []
  have object : ofFields (textFields texts) = .object (textFields read) :=
    congrArg Json.object sorted
  refine ⟨read, object ▸ asTextMap?_textFields read, ?_⟩
  intro name
  have keys : ((textFields texts).map Prod.fst).Nodup := by
    simpa [textFields, Function.comp_def] using distinct
  have found := field?_ofFields keys name
  rw [object] at found
  have same : ((textFields read).lookup name) = (textFields texts).lookup name := found
  rw [lookup_textFields, lookup_textFields] at same
  exact Option.map_injective (fun _ _ => Json.string.inj) same

/-- A field that is not there counts as missing. -/
theorem optional?_of_lookup_eq_none {α : Type} (decode : Json → Option α)
    {fields : List (String × Json)} {name : String} (absent : fields.lookup name = none) :
    optional? decode fields name = some none := by
  rw [optional?, absent]

end ClusterObject

end PodSizing
