/-!
# Pieces between separators

A text with `n` separators has `n + 1` pieces, some of which may be empty.  Main statement:
`pieces_intercalate`, pieces that hold no separator are found again when a separator is put
between them.
-/

namespace PodSizing.Text

/-- The pieces between the separators. -/
def pieces (separator : Char) : List Char → List (List Char)
  | [] => [[]]
  | c :: rest =>
      if c = separator then [] :: pieces separator rest
      else
        match pieces separator rest with
        | [] => [[c]]
        | piece :: others => (c :: piece) :: others

theorem pieces_of_not_mem {separator : Char} {text : List Char} (h : separator ∉ text) :
    pieces separator text = [text] := by
  induction text with
  | nil => rfl
  | cons c rest ih =>
      simp only [List.mem_cons, not_or] at h
      simp [pieces, Ne.symm h.1, ih h.2]

theorem pieces_append_separator {separator : Char} {piece : List Char} (h : separator ∉ piece)
    (rest : List Char) :
    pieces separator (piece ++ separator :: rest) = piece :: pieces separator rest := by
  induction piece with
  | nil => simp [pieces]
  | cons c piece ih =>
      simp only [List.mem_cons, not_or] at h
      simp [pieces, Ne.symm h.1, ih h.2]

theorem pieces_intercalate {separator : Char} {items : List (List Char)} (ne : items ≠ [])
    (h : ∀ item ∈ items, separator ∉ item) :
    pieces separator ([separator].intercalate items) = items := by
  induction items with
  | nil => simp at ne
  | cons item rest ih =>
      cases rest with
      | nil => simpa [List.intercalate] using pieces_of_not_mem (h item (by simp))
      | cons next others =>
          have tail := ih (by simp) fun item mem => h item (by simp [mem])
          simp only [List.intercalate, List.intersperse_cons_cons, List.flatten_cons,
            List.singleton_append] at tail ⊢
          rw [pieces_append_separator (h item (by simp)), tail]

end PodSizing.Text
