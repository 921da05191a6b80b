/-!
# Phrases

Looking for a phrase in a text, with capital letters read as small ones.  Only the letters of
ASCII have a small form here; the phrases that are looked for hold no other.
-/

namespace PodSizing.Text

/-- The phrase stands somewhere in the text. -/
def occursIn (phrase : List Char) : List Char → Bool
  | [] => phrase.isEmpty
  | head :: rest => phrase.isPrefixOf (head :: rest) || occursIn phrase rest

theorem occursIn_iff {phrase text : List Char} :
    occursIn phrase text = true ↔ phrase <:+: text := by
  induction text with
  | nil => simp [occursIn]
  | cons head rest ih =>
      simp only [occursIn, Bool.or_eq_true, List.isPrefixOf_iff_prefix, ih, List.infix_cons_iff]

/-- The phrase stands in the text, in letters of any case.  The phrase is given in small
letters. -/
def mentions (text phrase : String) : Bool :=
  occursIn phrase.toList (text.toList.map Char.toLower)

end PodSizing.Text
