import ShaderGraph.Proofs.Binary32.Text
import ShaderGraph.Proofs.Lowering.Names

/-!
# Phrases

The text of an expression is made of words and of brackets, which hold phrases with separators
between them and may have a word in front. Behind each stand the components that are selected of it.
A few marks part all this: no word has one, so it ends at the first. Hence a text is that of one
phrase at most, and where more follows, it also says where the phrase ends.
-/

set_option autoImplicit false

namespace ShaderGraph

/-! ## Words -/

/-- Whether a character parts words. -/
def isMark (c : Char) : Bool := "(),. ".toList.contains c

/-- Behind a word stands nothing or a mark, and here it is a mark. -/
theorem isMark_head {c : Char} (hc : isMark c = true) (rest : List Char) :
    ∀ d ∈ (c :: rest).head?, isMark d = true := by
  intro d hd
  obtain rfl : c = d := by simpa using hd
  exact hc

/-- The marks are brackets, comma, point and space. -/
theorem isMark_iff {c : Char} :
    isMark c = true ↔ c = '(' ∨ c = ')' ∨ c = ',' ∨ c = '.' ∨ c = ' ' := by
  simp [isMark]

/-- No letter or digit is a mark. -/
theorem isMark_of_isAlphanum {c : Char} (hc : c.isAlphanum = true) : isMark c = false := by
  rw [Bool.eq_false_iff]
  intro hmark
  rcases isMark_iff.mp hmark with rfl | rfl | rfl | rfl | rfl <;> exact absurd hc (by decide)

/-- No digit is a mark. -/
theorem isMark_of_isDigit {c : Char} (hc : c.isDigit = true) : isMark c = false :=
  isMark_of_isAlphanum (by simp [Char.isAlphanum, hc])

/-- Whether a text is in one piece. -/
def Unmarked (text : List Char) : Prop := ∀ c ∈ text, isMark c = false

/-- The characters of a text are checked one by one. -/
instance (text : List Char) : Decidable (Unmarked text) := List.decidableBAll _ _

/-- A text without marks. -/
@[ext]
structure Word where
  text : String
  unmarked : Unmarked text.toList
deriving DecidableEq

/-- The text between two phrases in brackets. -/
inductive Separator
  | comma
  /-- A word with a space on each side. -/
  | spaced (symbol : Word)
deriving DecidableEq

namespace Word

/-- The word without characters. -/
def empty : Word := ⟨"", by decide⟩

/-- The characters of a word. -/
def chars (word : Word) : List Char := word.text.toList

/-- A word ends where a mark follows. -/
theorem append_inj {a b : Word} {r s : List Char} (hr : ∀ c ∈ r.head?, isMark c = true)
    (hs : ∀ c ∈ s.head?, isMark c = true) (h : a.chars ++ r = b.chars ++ s) : a = b ∧ r = s := by
  have hsplit (word : Word) {rest : List Char} (hrest : ∀ c ∈ rest.head?, isMark c = true) :
      (word.chars ++ rest).takeWhile (fun c => !isMark c) = word.chars ∧
        (word.chars ++ rest).dropWhile (fun c => !isMark c) = rest :=
    Binary32.takeWhile_dropWhile_append (fun c hc => by simp [word.unmarked c hc])
      fun c hc => by simp [hrest c hc]
  obtain ⟨hfront, hrest⟩ := hsplit a hr
  rw [h, (hsplit b hs).1] at hfront
  rw [h, (hsplit b hs).2] at hrest
  exact ⟨Word.ext (String.toList_inj.mp hfront.symm), hrest.symm⟩

end Word

/-- The characters of selections, each behind a point. -/
def selectionChars (selections : List Word) : List Char :=
  selections.flatMap fun components => '.' :: components.chars

/-- Whether a phrase can end in front of a text: no word, bracket or selection goes on in it. -/
def Ends (rest : List Char) : Prop := ∀ c ∈ rest.head?, c ∈ [')', ',', ' ']

/-- A phrase can end where the text ends. -/
theorem ends_nil : Ends [] := by simp [Ends]

/-- A phrase can end in front of a closing bracket, a comma or a space, and of nothing else. -/
theorem ends_cons {c : Char} {rest : List Char} : Ends (c :: rest) ↔ c ∈ [')', ',', ' '] := by
  simp [Ends]

/-- Selections end in front of a mark, and so does what they stand behind. -/
theorem isMark_selectionChars (selections : List Word) {rest : List Char} (hrest : Ends rest) :
    ∀ c ∈ (selectionChars selections ++ rest).head?, isMark c = true := by
  cases selections with
  | nil =>
    intro c hc
    have hends : c = ')' ∨ c = ',' ∨ c = ' ' := by simpa using hrest c hc
    rcases hends with rfl | rfl | rfl <;> decide
  | cons components selections => exact isMark_head (by decide) _

/-- Selections can be read back from a text in which the phrase ends behind them. -/
theorem selectionChars_append_inj {a b : List Word} {r s : List Char} (hr : Ends r) (hs : Ends s)
    (h : selectionChars a ++ r = selectionChars b ++ s) : a = b ∧ r = s := by
  induction a generalizing b with
  | nil =>
    cases b with
    | nil => exact ⟨rfl, h⟩
    | cons components b =>
      obtain rfl : r = '.' :: (components.chars ++ selectionChars b ++ s) := by
        simpa [selectionChars] using h
      exact absurd (ends_cons.mp hr) (by decide)
  | cons components a ih =>
    cases b with
    | nil =>
      obtain rfl : s = '.' :: (components.chars ++ selectionChars a ++ r) := by
        simpa [selectionChars] using h.symm
      exact absurd (ends_cons.mp hs) (by decide)
    | cons components' b =>
      simp only [selectionChars, List.flatMap_cons, List.cons_append, List.append_assoc,
        List.cons.injEq, true_and] at h
      obtain ⟨rfl, hselections⟩ :=
        Word.append_inj (isMark_selectionChars a hr) (isMark_selectionChars b hs) h
      obtain ⟨rfl, hrest⟩ := ih hselections
      exact ⟨rfl, hrest⟩

namespace Separator

/-- The characters of a separator. -/
def chars : Separator → List Char
  | comma => [',', ' ']
  | spaced symbol => ' ' :: (symbol.chars ++ [' '])

/-- No separator is the beginning of another. -/
theorem append_inj {a b : Separator} {r s : List Char} (h : a.chars ++ r = b.chars ++ s) :
    a = b ∧ r = s := by
  cases a with
  | comma =>
    cases b with
    | comma => simpa [chars] using h
    | spaced _ => simp [chars] at h
  | spaced symbol =>
    cases b with
    | comma => simp [chars] at h
    | spaced symbol' =>
      have hspace : isMark ' ' = true := by decide
      simp only [chars, List.cons_append, List.append_assoc, List.cons.injEq, true_and,
        List.nil_append] at h
      obtain ⟨rfl, hrest⟩ := Word.append_inj (isMark_head hspace r) (isMark_head hspace s) h
      exact ⟨rfl, (List.cons.inj hrest).2⟩

/-- A phrase can end in front of every separator. -/
theorem ends_append (separator : Separator) (rest : List Char) :
    Ends (separator.chars ++ rest) := by
  cases separator <;> simp [chars, Ends]

end Separator

/-! ## Phrases -/

mutual

/-- A word or a bracket, and the components selected of it. -/
inductive Phrase
  | word (front : Word) (selections : List Word)
  /-- A bracket with a word right in front of it. -/
  | group (head : Word) (first : Phrase) (rest : Phrases) (selections : List Word)

/-- Phrases with a separator in front of each. -/
inductive Phrases
  | nil
  | cons (separator : Separator) (phrase : Phrase) (rest : Phrases)

end

mutual

/-- The characters of a phrase. -/
def Phrase.chars : Phrase → List Char
  | .word front selections => front.chars ++ selectionChars selections
  | .group head first rest selections =>
    head.chars ++ '(' :: (first.chars ++ (rest.chars ++ ')' :: selectionChars selections))

/-- The characters of phrases, with those of their separators. -/
def Phrases.chars : Phrases → List Char
  | .nil => []
  | .cons separator phrase rest => separator.chars ++ (phrase.chars ++ rest.chars)

end

/-- In brackets, a phrase ends where a separator or the closing bracket follows. -/
theorem Phrases.ends_chars (phrases : Phrases) (rest : List Char) :
    Ends (phrases.chars ++ ')' :: rest) := by
  cases phrases with
  | nil => exact ends_cons.mpr (by decide)
  | cons separator phrase phrases =>
    rw [chars, List.append_assoc]
    exact separator.ends_append _

/-- The opening bracket behind a word tells a bracket from a word. -/
theorem Phrase.word_ne_group {front head : Word} {selections : List Word} {r rest : List Char}
    (hr : Ends r) :
    front.chars ++ (selectionChars selections ++ r) ≠ head.chars ++ '(' :: rest := by
  intro h
  have hopening : isMark '(' = true := by decide
  obtain ⟨-, hrest⟩ :=
    Word.append_inj (isMark_selectionChars selections hr) (isMark_head hopening rest) h
  cases selections with
  | nil =>
    obtain rfl : r = '(' :: rest := hrest
    exact absurd (ends_cons.mp hr) (by decide)
  | cons components selections => simp [selectionChars] at hrest

mutual

/-- **The text of a phrase says what the phrase is and where it ends.** -/
theorem Phrase.append_inj : (p q : Phrase) → {r s : List Char} → Ends r → Ends s →
    p.chars ++ r = q.chars ++ s → p = q ∧ r = s
  | .word front selections, .word front' selections', r, s, hr, hs, h => by
    simp only [Phrase.chars, List.append_assoc] at h
    obtain ⟨rfl, hselections⟩ := Word.append_inj (isMark_selectionChars selections hr)
      (isMark_selectionChars selections' hs) h
    obtain ⟨rfl, rfl⟩ := selectionChars_append_inj hr hs hselections
    exact ⟨rfl, rfl⟩
  | .word front selections, .group head first rest selections', r, s, hr, hs, h => by
    simp only [Phrase.chars, List.append_assoc, List.cons_append] at h
    exact absurd h (Phrase.word_ne_group hr)
  | .group head first rest selections, .word front selections', r, s, hr, hs, h => by
    simp only [Phrase.chars, List.append_assoc, List.cons_append] at h
    exact absurd h.symm (Phrase.word_ne_group hs)
  | .group head first rest selections, .group head' first' rest' selections', r, s, hr, hs, h => by
    have hopening : isMark '(' = true := by decide
    simp only [Phrase.chars, List.append_assoc, List.cons_append] at h
    obtain ⟨rfl, hinside⟩ := Word.append_inj (isMark_head hopening _) (isMark_head hopening _) h
    obtain ⟨rfl, hothers⟩ := Phrase.append_inj first first' (rest.ends_chars _)
      (rest'.ends_chars _) (List.cons.inj hinside).2
    obtain ⟨rfl, hselections⟩ := Phrases.append_inj rest rest' hothers
    obtain ⟨rfl, rfl⟩ := selectionChars_append_inj hr hs hselections
    exact ⟨rfl, rfl⟩

/-- Phrases in brackets can be read back from a text that goes on behind the brackets. -/
theorem Phrases.append_inj : (p q : Phrases) → {r s : List Char} →
    p.chars ++ ')' :: r = q.chars ++ ')' :: s → p = q ∧ r = s
  | .nil, .nil, r, s, h => ⟨rfl, (List.cons.inj h).2⟩
  | .nil, .cons separator phrase rest, r, s, h => by
    cases separator <;> simp [Phrases.chars, Separator.chars] at h
  | .cons separator phrase rest, .nil, r, s, h => by
    cases separator <;> simp [Phrases.chars, Separator.chars] at h
  | .cons separator phrase rest, .cons separator' phrase' rest', r, s, h => by
    simp only [Phrases.chars, List.append_assoc] at h
    obtain ⟨rfl, hphrase⟩ := Separator.append_inj h
    obtain ⟨rfl, hothers⟩ := Phrase.append_inj phrase phrase' (rest.ends_chars _)
      (rest'.ends_chars _) hphrase
    obtain ⟨rfl, rfl⟩ := Phrases.append_inj rest rest' hothers
    exact ⟨rfl, rfl⟩

end

/-- A text is that of one phrase at most. -/
theorem Phrase.chars_injective : Function.Injective Phrase.chars := fun p q h =>
  (append_inj p q ends_nil ends_nil (by rw [h])).1

end ShaderGraph
