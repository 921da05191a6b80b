import PodSizing.Text.Blank

/-!
# Runs of one class of characters

A run of characters of one class ends where a character of another class, or the end of the text,
follows.  It is then all that is taken from the front of the text, so a text can be cut in one way
only into such a run and what follows it.  Blanks around a text without blanks are such runs, and
trimming removes exactly them.
-/

namespace PodSizing.Text

variable {p : Char → Bool} {run other rest otherRest : List Char}

/-- The text is empty or begins with a character that is not of the class. -/
def StartsOutside (p : Char → Bool) (text : List Char) : Prop :=
  ∀ c ∈ text.head?, p c = false

theorem startsOutside_of_forall (outside : ∀ c ∈ rest, p c = false) : StartsOutside p rest :=
  fun c mem => outside c (List.mem_of_mem_head? mem)

/-- A run is taken up to its end. -/
theorem takeWhile_run (inside : ∀ c ∈ run, p c = true) (stop : StartsOutside p rest) :
    (run ++ rest).takeWhile p = run ∧ (run ++ rest).dropWhile p = rest := by
  rw [List.takeWhile_append_of_pos inside, List.dropWhile_append_of_pos inside]
  cases rest with
  | nil => exact ⟨List.append_nil run, rfl⟩
  | cons c rest =>
      have outside : p c = false := stop c rfl
      simp [outside]

/-- There is one way to cut a text into a run and what follows it. -/
theorem run_inj (inside : ∀ c ∈ run, p c = true) (otherInside : ∀ c ∈ other, p c = true)
    (stop : StartsOutside p rest) (otherStop : StartsOutside p otherRest)
    (same : run ++ rest = other ++ otherRest) : run = other ∧ rest = otherRest := by
  obtain ⟨taken, left⟩ := takeWhile_run inside stop
  obtain ⟨otherTaken, otherLeft⟩ := takeWhile_run otherInside otherStop
  rw [same] at taken left
  exact ⟨taken.symm.trans otherTaken, left.symm.trans otherLeft⟩

/-- A character that is not in a run stands after it. -/
theorem exists_of_not_mem {front back : List Char} {c : Char} (outside : c ∉ run)
    (same : run ++ rest = front ++ c :: back) :
    ∃ inner, front = run ++ inner ∧ rest = inner ++ c :: back := by
  rcases List.append_eq_append_iff.mp same with later | ⟨inner, run_eq, rest_eq⟩
  · exact later
  · cases inner with
    | nil =>
        rw [List.append_nil] at run_eq
        exact ⟨[], by rw [List.append_nil, run_eq], rest_eq.symm⟩
    | cons first inner =>
        obtain ⟨rfl, -⟩ := List.cons.inj rest_eq
        exact absurd (by simp [run_eq]) outside

/-! ### Blanks around a text -/

variable {before body after : List Char}

private theorem trimStart_append (blank : ∀ c ∈ before, isBlank c = true)
    (plain : ∀ c ∈ body, isBlank c = false) (blankAfter : ∀ c ∈ after, isBlank c = true) :
    trimStart (before ++ (body ++ after)) = if body = [] then [] else body ++ after := by
  rw [trimStart, List.dropWhile_append_of_pos blank]
  cases body with
  | nil =>
      have stop : StartsOutside isBlank [] := startsOutside_of_forall (by simp)
      have left := (takeWhile_run blankAfter stop).2
      simpa using left
  | cons c body =>
      have outside : isBlank c = false := plain c List.mem_cons_self
      simp [outside]

/-- Trimming removes the blanks around a text without blanks. -/
theorem trim_append (blank : ∀ c ∈ before, isBlank c = true)
    (plain : ∀ c ∈ body, isBlank c = false) (blankAfter : ∀ c ∈ after, isBlank c = true) :
    trim (before ++ (body ++ after)) = body := by
  rw [trim, trimStart_append blank plain blankAfter]
  split
  case isTrue empty =>
    rw [empty]
    rfl
  case isFalse nonempty =>
    have plainReversed : ∀ c ∈ body.reverse, isBlank c = false :=
      fun c mem => plain c (List.mem_reverse.mp mem)
    have blankReversed : ∀ c ∈ after.reverse, isBlank c = true :=
      fun c mem => blankAfter c (List.mem_reverse.mp mem)
    have nothing : ∀ c ∈ ([] : List Char), isBlank c = true := by simp
    have trimmed := trimStart_append blankReversed plainReversed nothing
    rw [List.append_nil, if_neg (by simpa using nonempty)] at trimmed
    rw [List.reverse_append, trimmed, List.reverse_reverse]

/-- What trimming removes are blanks. -/
theorem exists_trim_eq (text : List Char) :
    ∃ before after, (∀ c ∈ before, isBlank c = true) ∧ (∀ c ∈ after, isBlank c = true) ∧
      text = before ++ (trim text ++ after) := by
  have blanks : ∀ text : List Char, ∀ c ∈ text.takeWhile isBlank, isBlank c = true :=
    fun _ => List.all_eq_true.mp List.all_takeWhile
  let left := trimStart text
  refine ⟨text.takeWhile isBlank, (left.reverse.takeWhile isBlank).reverse, blanks text,
    fun c mem => blanks _ c (List.mem_reverse.mp mem), ?_⟩
  have inner : trim text ++ (left.reverse.takeWhile isBlank).reverse = left := by
    rw [trim, ← List.reverse_append]
    exact (congrArg List.reverse List.takeWhile_append_dropWhile).trans (List.reverse_reverse _)
  rw [inner]
  exact List.takeWhile_append_dropWhile.symm

end PodSizing.Text
