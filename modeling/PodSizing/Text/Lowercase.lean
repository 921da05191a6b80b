import PodSizing.Text.LetterCase

/-!
# Small letters

A text with small letters in place of the capital ones.  Each letter has a small form of its own,
but for the Greek sigma, which has another one at the end of a word.
-/

namespace PodSizing.Text

/-- The small form of a character: that of a capital letter, and any other character itself.  The
capital `I` with a dot keeps its dot as a mark of its own. -/
def smallForm (c : Char) : List Char :=
  if c = '\u0130' then ['i', '\u0307']
  else
    match capitalRuns.find? fun (first, last, step, _) =>
        first ≤ c.toNat && c.toNat ≤ last && (c.toNat - first) % step == 0 with
    | some (_, _, _, distance) => [Char.ofNat (c.toNat + distance).toNat]
    | none => [c]

/-- The first character that is not passed over belongs to a word in letters. -/
def meetsCased (text : List Char) : Bool :=
  ((text.dropWhile (inRanges caseIgnorableRanges)).head?).any (inRanges casedRanges)

/-- The small forms of a text, given what stands before it in reverse. -/
def lowercaseAfter (reversed : List Char) : List Char → List Char
  | [] => []
  | c :: rest =>
      let small :=
        if c = 'Σ' then
          if meetsCased reversed && !meetsCased rest then ['ς'] else ['σ']
        else smallForm c
      small ++ lowercaseAfter (c :: reversed) rest

/-- The text in small letters. -/
def lowercase (text : List Char) : List Char := lowercaseAfter [] text

example : lowercase "ΟΔΟΣ ΣΑΣ-É".toList = "οδος σας-é".toList := by decide +kernel

end PodSizing.Text
