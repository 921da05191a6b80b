import PodSizing.Instant.Timestamp
import PodSizing.Proofs.Binary64
import PodSizing.Proofs.Json.Proper

/-!
# Faithful forms in JSON

A form is a writer and a reader of the values of a type.  It is `Faithful` for the values that fit
into it when these are read back as they were written and nothing else is read from a proper value.
Forms are put together from those of numbers, texts and names: `Faithful.list` for lists, and
`Faithful.record` for records, of which it asks about one field at a time.
-/

namespace PodSizing.Json

variable {α : Type} {encode : α → Json} {decode? : Json → Option α} {Fits : α → Prop}

/-- A form of the values that fit into it. -/
structure Faithful (encode : α → Json) (decode? : Json → Option α) (Fits : α → Prop) : Prop where
  proper : ∀ {value : α}, Fits value → (encode value).IsProper
  decode_encode : ∀ {value : α}, Fits value → decode? (encode value) = some value
  fits : ∀ {json : Json} {value : α}, json.IsProper → decode? json = some value → Fits value

/-- A form in which nothing is lost.  Many JSON values may be read as one value, of which only one
is written. -/
structure Lossless (encode : α → Json) (decode? : Json → Option α) (Fits : α → Prop) : Prop where
  proper : ∀ value, Fits value → (encode value).IsProper
  round_trip : ∀ value, Fits value → decode? (encode value) = some value
  injective : ∀ value other, Fits value → Fits other → encode value = encode other → value = other
  /-- What has been read, however it was spelled, is read again from what is written for it. -/
  stable : ∀ json value, json.IsProper → decode? json = some value →
    Fits value ∧ decode? (encode value) = some value

theorem Faithful.lossless (form : Faithful encode decode? Fits) :
    Lossless encode decode? Fits where
  proper _ := form.proper
  round_trip _ := form.decode_encode
  injective value other fits otherFits same := by
    have decoded := form.decode_encode fits
    rw [same, form.decode_encode otherFits] at decoded
    exact (Option.some.inj decoded).symm
  stable _ _ proper read :=
    have fits := form.fits proper read
    ⟨fits, form.decode_encode fits⟩

/-! ### Texts, numbers and names -/

theorem faithful_text : Faithful .string asText? fun _ => True where
  proper _ := .string _
  decode_encode _ := rfl
  fits _ _ := trivial

/-- A natural number below a bound of at most 64 bits. -/
theorem faithful_natBelow {bound : Nat} (le : bound ≤ Nat.pow 2 64) :
    Faithful ofNat (asNatBelow? bound) (· < bound) where
  proper {value} lt := by
    have most : (value : Int) < (Nat.pow 2 64 : Nat) := Int.ofNat_lt.mpr (Nat.lt_of_lt_of_le lt le)
    have least : -((Nat.pow 2 63 : Nat) : Int) ≤ value :=
      Int.le_trans (Int.neg_nonpos_of_nonneg (Int.natCast_nonneg _)) (Int.natCast_nonneg value)
    exact .integer least most
  decode_encode {value} lt := if_pos ⟨Int.natCast_nonneg value, Int.ofNat_lt.mpr lt⟩
  fits {json value} _ read := by
    unfold asNatBelow? at read
    split at read
    · split at read
      · rename_i inRange
        obtain rfl := Option.some.inj read
        exact (Int.toNat_lt inRange.1).mpr inRange.2
      · exact absurd read (by simp)
    · exact absurd read (by simp)

/-- The number fits into 64 bits. -/
def IsWord (value : Nat) : Prop := value < Nat.pow 2 64

theorem faithful_word : Faithful ofNat asNat? IsWord := faithful_natBelow (Nat.le_refl _)

/-- A finite number.  Whole numbers are read as such too. -/
theorem faithful_real :
    Faithful (fun value => .number (.real value)) asReal? fun value => value.isFinite = true where
  proper finite := .real finite
  decode_encode _ := rfl
  fits {json value} proper read := by
    cases proper with
    | null | bool | string | array | object => exact absurd read (by simp [asReal?])
    | real finite =>
        obtain rfl := Option.some.inj read
        exact finite
    | integer least most =>
        obtain rfl := Option.some.inj read
        refine Binary64.isFinite_ofRatio_one _ ?_
        have wider : Nat.pow 2 63 < Nat.pow 2 64 := by decide
        omega

/-- The bare names of some values. -/
theorem faithful_name {name : α → String} {ofName? : String → Option α}
    (ofName?_name : ∀ value, ofName? (name value) = some value) :
    Faithful (fun value => .string (name value)) (fun json => (asName? json).bind ofName?)
      fun _ => True where
  proper _ := .string _
  decode_encode _ := ofName?_name _
  fits _ _ := trivial

/-! ### Lists -/

/-- A list is read item by item. -/
theorem mapM_cons_eq_some_iff {ι : Type} {read : ι → Option α} {item : ι} {rest : List ι}
    {values : List α} :
    (item :: rest).mapM read = some values ↔
      ∃ first others, read item = some first ∧ rest.mapM read = some others ∧
        values = first :: others := by
  simp only [List.mapM_cons, bind, pure, Option.bind_eq_some_iff, Option.some.injEq]
  constructor
  · rintro ⟨first, firstRead, others, othersRead, rfl⟩
    exact ⟨first, others, firstRead, othersRead, rfl⟩
  · rintro ⟨first, others, firstRead, othersRead, rfl⟩
    exact ⟨first, firstRead, others, othersRead, rfl⟩

theorem Faithful.list (form : Faithful encode decode? Fits) :
    Faithful (ofList encode) (asList? decode?) fun values => ∀ value ∈ values, Fits value where
  proper {values} fits := by
    refine .array fun item mem => ?_
    obtain ⟨value, valueMem, rfl⟩ := List.mem_map.mp mem
    exact form.proper (fits value valueMem)
  decode_encode {values} fits := by
    show (values.map encode).mapM decode? = some values
    induction values with
    | nil => rfl
    | cons value rest ih =>
        obtain ⟨valueFits, restFits⟩ := List.forall_mem_cons.mp fits
        exact mapM_cons_eq_some_iff.mpr
          ⟨value, rest, form.decode_encode valueFits, ih restFits, rfl⟩
  fits {json values} proper read := by
    cases proper with
    | null | bool | integer | real | string | object => exact absurd read (by simp [asList?])
    | @array items items_proper =>
        have decoded : items.mapM decode? = some values := read
        clear read
        induction items generalizing values with
        | nil =>
            obtain rfl := Option.some.inj decoded
            exact List.forall_mem_nil _
        | cons item rest ih =>
            obtain ⟨itemProper, restProper⟩ := List.forall_mem_cons.mp items_proper
            obtain ⟨first, others, firstRead, othersRead, rfl⟩ :=
              mapM_cons_eq_some_iff.mp decoded
            exact List.forall_mem_cons.mpr
              ⟨form.fits itemProper firstRead, ih restProper othersRead⟩

/-! ### Records -/

theorem Faithful.required_encode (form : Faithful encode decode? Fits) {value : α}
    (fits : Fits value) : required decode? (.value (encode value)) = some value :=
  form.decode_encode fits

@[simp]
theorem optional_missing : optional decode? .missing = some none := rfl

theorem Faithful.optional_encode (form : Faithful encode decode? Fits) {value : α}
    (fits : Fits value) (notNull : encode value ≠ .null) :
    optional decode? (.value (encode value)) = some (some value) := by
  have decoded := form.decode_encode fits
  unfold optional
  split
  · rename_i null
    exact absurd (Entry.value.inj null) notNull
  · rename_i missing
    exact absurd missing (by simp)
  · rename_i given
    rw [← Entry.value.inj given, decoded]
    rfl
  · rename_i cutOff
    exact absurd cutOff (by simp)

theorem Faithful.required_fits (form : Faithful encode decode? Fits) {entry : Entry} {value : α}
    (proper : entry.IsProper) (read : required decode? entry = some value) : Fits value := by
  cases entry with
  | value json => exact form.fits (proper json rfl) read
  | missing | cutOff => exact absurd read (by simp [required])

/-- A record whose fields are written and read one by one. -/
theorem Faithful.record {names : List String} {write : α → List (String × Json)}
    {read : List Entry → Option α}
    (distinct : ∀ value, ((write value).map Prod.fst).Nodup)
    (fields_proper : ∀ value, Fits value → ∀ field ∈ write value, field.2.IsProper)
    (read_write : ∀ value, Fits value →
      read (names.map fun name => Entry.ofOption ((write value).lookup name)) = some value)
    (fits : ∀ entries value, (∀ entry ∈ entries, entry.IsProper) → read entries = some value →
      Fits value) :
    Faithful (fun value => ofFields (write value)) (fun json => entries? names json >>= read)
      Fits where
  proper fitting := isProper_ofFields (fields_proper _ fitting)
  decode_encode {value} fitting := by
    rw [entries?_ofFields names (distinct value)]
    exact read_write value fitting
  fits {json value} proper decoded := by
    obtain ⟨entries, found, decoded⟩ := Option.bind_eq_some_iff.mp decoded
    exact fits entries value (proper.entries found) decoded

end PodSizing.Json
