import PodSizing.Text.Lowercase
import PodSizing.Text.Phrase

/-!
# Phrases in texts of any script

A phrase is looked for in a text whose capital letters of ASCII are read as small ones.  For plain
phrases this finds the same as looking in the text with all its capital letters made small: beyond
ASCII only the sign for Kelvin has a small form among the letters from `a` to `z`, and only the
dotted capital `I` has one that starts with such a letter.
-/

namespace PodSizing.Text

/-- The phrase stands in the text in small letters. -/
def Says (text phrase : String) : Prop :=
  phrase.toList <:+: lowercase text.toList

instance (text phrase : String) : Decidable (Says text phrase) :=
  inferInstanceAs (Decidable (phrase.toList <:+: lowercase text.toList))

/-- A blank or a small letter that stands for no character beyond ASCII; the `k` stands for the
sign for Kelvin. -/
def IsPlainLetter (c : Char) : Prop :=
  c = ' ' ∨ c.isLower = true ∧ c ≠ 'k'

instance : DecidablePred IsPlainLetter :=
  fun c => inferInstanceAs (Decidable (c = ' ' ∨ c.isLower = true ∧ c ≠ 'k'))

/-- A phrase of plain letters that does not end in `i`, where the dotted capital `I` could stand. -/
structure IsPlain (phrase : List Char) : Prop where
  letters : ∀ c ∈ phrase, IsPlainLetter c
  ending : phrase.getLast? ≠ some 'i'

instance : DecidablePred IsPlain :=
  fun phrase => decidable_of_iff
    (phrase.all IsPlainLetter = true ∧ phrase.getLast? ≠ some 'i')
    ⟨fun ⟨letters, ending⟩ => ⟨fun c mem => of_decide_eq_true (List.all_eq_true.mp letters c mem),
        ending⟩,
      fun plain => ⟨List.all_eq_true.mpr fun c mem => decide_eq_true (plain.letters c mem),
        plain.ending⟩⟩

theorem IsPlain.tail {c : Char} {phrase : List Char} (plain : IsPlain (c :: phrase)) :
    IsPlain phrase where
  letters d mem := plain.letters d (List.mem_cons_of_mem c mem)
  ending isI := by
    apply plain.ending
    rw [List.getLast?_cons, isI]
    rfl

/-! ### Small forms -/

theorem not_isPlainLetter_of_le {c : Char} (beyond : 128 ≤ c.toNat) : ¬ IsPlainLetter c := by
  rintro (rfl | ⟨lower, -⟩)
  · exact absurd beyond (by decide)
  · have last : c.toNat ≤ 122 := of_decide_eq_true (Bool.and_eq_true_iff.mp lower).2
    omega

/-- A code beyond ASCII is not the one of a plain letter, whether it is one at all or not. -/
theorem not_isPlainLetter_ofNat {code : Nat} (beyond : 128 ≤ code) :
    ¬ IsPlainLetter (Char.ofNat code) := by
  by_cases valid : code.isValidChar
  · apply not_isPlainLetter_of_le
    rw [Char.ofNat, dif_pos valid]
    exact beyond
  · have none : Char.ofNat code = '\x00' := dif_neg valid
    rw [none]
    decide

theorem toLower_of_le {c : Char} (beyond : 128 ≤ c.toNat) : c.toLower = c := by
  apply dif_neg
  rintro ⟨-, last⟩
  have last : c.toNat ≤ 90 := last
  omega

/-- How the small form of a character goes with the one of ASCII: it is the same, or neither is of
use to a plain phrase. -/
inductive IsSmall (c : Char) : List Char → Prop
  | same : IsSmall c [c.toLower]
  | foreign {small : Char} : ¬ IsPlainLetter c.toLower → ¬ IsPlainLetter small → IsSmall c [small]
  | dotted : ¬ IsPlainLetter c.toLower → IsSmall c ['i', '\u0307']

theorem smallForm_ascii : ∀ code < 128,
    smallForm (Char.ofNat code) = [(Char.ofNat code).toLower] := by
  decide +kernel

/-- Beyond ASCII no run of capital letters has plain letters for its small forms. -/
theorem capitalRuns_beyond : ∀ run ∈ capitalRuns, 128 ≤ run.2.1 →
    128 ≤ (run.1 + run.2.2.2).toNat ∨
      run.1 = run.2.1 ∧ ¬ IsPlainLetter (Char.ofNat (run.1 + run.2.2.2).toNat) := by
  decide +kernel

theorem isSmall_smallForm (c : Char) : IsSmall c (smallForm c) := by
  by_cases beyond : 128 ≤ c.toNat
  · have notPlain : ¬ IsPlainLetter c.toLower := by
      rw [toLower_of_le beyond]
      exact not_isPlainLetter_of_le beyond
    rw [smallForm]
    split
    · exact .dotted notPlain
    · split
      next first last step distance found =>
        apply IsSmall.foreign notPlain
        have mem := List.mem_of_find?_eq_some found
        have within := List.find?_some found
        simp only [Bool.and_eq_true, decide_eq_true_eq] at within
        obtain ⟨⟨lower, upper⟩, -⟩ := within
        rcases capitalRuns_beyond _ mem (Nat.le_trans beyond upper) with small | ⟨single, small⟩
        · apply not_isPlainLetter_ofNat
          dsimp only at small
          omega
        · dsimp only at single small
          have only : c.toNat = first := by omega
          rw [only]
          exact small
      next => exact .foreign notPlain (not_isPlainLetter_of_le beyond)
  · have small := smallForm_ascii c.toNat (by omega)
    rw [Char.ofNat_toNat] at small
    rw [small]
    exact .same

/-- What the first character of a text becomes, whatever stands around it. -/
theorem exists_isSmall (reversed : List Char) (c : Char) (rest : List Char) :
    ∃ small, IsSmall c small ∧
      lowercaseAfter reversed (c :: rest) = small ++ lowercaseAfter (c :: reversed) rest := by
  refine ⟨_, ?_, rfl⟩
  split
  next sigma =>
    rw [sigma]
    split
    · exact .foreign (by decide) (by decide)
    · exact .foreign (by decide) (by decide)
  next => exact isSmall_smallForm c

/-! ### Phrases -/

/-- A plain phrase at the front of a text is found there letter by letter. -/
theorem prefix_lowercaseAfter_iff {phrase : List Char} (plain : IsPlain phrase)
    (reversed text : List Char) :
    phrase <+: lowercaseAfter reversed text ↔ phrase <+: text.map Char.toLower := by
  induction text generalizing phrase reversed with
  | nil => exact Iff.rfl
  | cons c rest ih =>
      cases phrase with
      | nil => simp
      | cons letter phrase =>
          have isLetter := plain.letters letter List.mem_cons_self
          obtain ⟨small, isSmall, eq⟩ := exists_isSmall reversed c rest
          rw [eq, List.map_cons, List.cons_prefix_cons]
          cases isSmall with
          | same =>
              rw [List.singleton_append, List.cons_prefix_cons, ih plain.tail]
          | foreign notPlain notSmall =>
              rw [List.singleton_append, List.cons_prefix_cons]
              constructor
              · rintro ⟨rfl, -⟩
                contradiction
              · rintro ⟨rfl, -⟩
                contradiction
          | dotted notPlain =>
              constructor
              · intro found
                -- After the `i` comes a mark that is no letter, or the phrase ends.
                obtain ⟨rfl, more⟩ := List.cons_prefix_cons.mp found
                cases phrase with
                | nil => exact absurd rfl plain.ending
                | cons mark phrase =>
                    obtain ⟨rfl, -⟩ := List.cons_prefix_cons.mp more
                    exact absurd (plain.tail.letters _ List.mem_cons_self) (by decide)
              · rintro ⟨rfl, -⟩
                contradiction

/-- A plain phrase stands in a text just where it stands in the letters one by one. -/
theorem infix_lowercaseAfter_iff {phrase : List Char} (plain : IsPlain phrase)
    (reversed text : List Char) :
    phrase <:+: lowercaseAfter reversed text ↔ phrase <:+: text.map Char.toLower := by
  induction text generalizing reversed with
  | nil => exact Iff.rfl
  | cons c rest ih =>
      have front := prefix_lowercaseAfter_iff plain reversed (c :: rest)
      have behind := ih (c :: reversed)
      obtain ⟨small, isSmall, eq⟩ := exists_isSmall reversed c rest
      rw [eq] at front ⊢
      rw [List.map_cons, List.infix_cons_iff, ← List.map_cons, ← front, ← behind]
      cases isSmall with
      | same => exact List.infix_cons_iff
      | foreign => exact List.infix_cons_iff
      | dotted =>
          -- No plain phrase but the empty one starts at the mark.
          have skip : phrase <+: '\u0307' :: lowercaseAfter (c :: reversed) rest →
              phrase <:+: lowercaseAfter (c :: reversed) rest := by
            intro found
            cases phrase with
            | nil => exact List.nil_infix
            | cons mark phrase =>
                obtain ⟨rfl, -⟩ := List.cons_prefix_cons.mp found
                exact absurd (plain.letters _ List.mem_cons_self) (by decide)
          rw [List.cons_append, List.cons_append, List.nil_append, List.infix_cons_iff,
            List.infix_cons_iff, or_iff_right_of_imp skip]

/-- A plain phrase is found in a text exactly when the text says it. -/
theorem mentions_iff_says {phrase : String} (plain : IsPlain phrase.toList) (text : String) :
    mentions text phrase = true ↔ Says text phrase := by
  rw [mentions, occursIn_iff, Says, lowercase, infix_lowercaseAfter_iff plain]

/-! ### Texts in parts -/

/-- A prefix ends before a character that it does not have. -/
theorem prefix_append_cons_iff {phrase : List Char} {separator : Char}
    (absent : separator ∉ phrase) (left right : List Char) :
    phrase <+: left ++ separator :: right ↔ phrase <+: left := by
  constructor
  · intro found
    rcases Nat.lt_or_ge left.length phrase.length with longer | shorter
    · have inside : left ++ [separator] <+: left ++ separator :: right :=
        ⟨right, by rw [List.append_assoc, List.singleton_append]⟩
      have reaches : left ++ [separator] <+: phrase := by
        apply List.prefix_of_prefix_length_le inside found
        rw [List.length_append]
        exact longer
      exact absurd (reaches.subset (List.mem_append_right left List.mem_cons_self)) absent
    · exact List.prefix_of_prefix_length_le found (List.prefix_append left _) shorter
  · intro found
    exact found.trans (List.prefix_append left _)

/-- A phrase stands on one side of a character that it does not have. -/
theorem infix_append_cons_iff {phrase : List Char} {separator : Char}
    (absent : separator ∉ phrase) (left right : List Char) :
    phrase <:+: left ++ separator :: right ↔ phrase <:+: left ∨ phrase <:+: right := by
  induction left with
  | nil =>
      have front : phrase <+: separator :: right ↔ phrase <+: [] :=
        prefix_append_cons_iff absent [] right
      rw [List.nil_append, List.infix_cons_iff, front, List.prefix_nil, List.infix_nil]
  | cons c left ih =>
      have front : phrase <+: c :: (left ++ separator :: right) ↔ phrase <+: c :: left :=
        prefix_append_cons_iff absent (c :: left) right
      rw [List.cons_append, List.infix_cons_iff, List.infix_cons_iff, front, ih, or_assoc]

end PodSizing.Text
