import ShaderGraph.Notation.Tree
import ShaderGraph.Notation.Reader
import ShaderGraph.Proofs.Binary32.Text

/-!
# Reading blanks and words

Blanks are skipped up to the first character of a value. A word or a name ends where a character
follows that cannot be part of it; what follows a written value is a comma or a closing bracket.
-/

set_option autoImplicit false

namespace ShaderGraph.Notation

/-- Whether a character can be the first of a value: no blank, no comment and no closing bracket. -/
def opens (c : Char) : Bool := !isBlank c && c != '/' && c != ')' && c != ']'

/-- Whether a text is at its end, or goes on as it does behind a value. -/
def Ended (text : List Char) : Prop := ∀ c ∈ text.head?, c = ',' ∨ c = ')'

/-- A value can end where the text ends. -/
theorem ended_nil : Ended [] := by simp [Ended]

/-- A value can end in front of a comma. -/
theorem ended_comma (text : List Char) : Ended (',' :: text) := by simp [Ended]

/-- A value can end in front of a closing bracket. -/
theorem ended_close (text : List Char) : Ended (')' :: text) := by simp [Ended]

/-! ## Blanks -/

/-- A character that is no blank and opens no comment stops the skipping of blanks. -/
theorem skipBlank_of_not_blank {c : Char} (hblank : isBlank c = false) (hslash : c ≠ '/')
    (text : List Char) : skipBlank (c :: text) = some (c :: text) := by
  unfold skipBlank skipFrom
  split <;> simp_all

/-- A blank is skipped. -/
theorem skipBlank_of_blank {c : Char} (hblank : isBlank c = true) (text : List Char) :
    skipBlank (c :: text) = skipBlank text := by
  have hslash : c ≠ '/' := by
    rintro rfl
    exact absurd hblank (by decide)
  rw [skipBlank, skipFrom.eq_def]
  split <;> simp_all [skipBlank]

/-- Nothing is skipped in front of a character that can be the first of a value. -/
theorem skipBlank_opens {c : Char} (hc : opens c = true) (text : List Char) :
    skipBlank (c :: text) = some (c :: text) := by
  simp only [opens, Bool.and_eq_true, Bool.not_eq_true', bne_iff_ne] at hc
  exact skipBlank_of_not_blank hc.1.1.1 hc.1.1.2 text

/-- Any number of spaces is skipped. -/
theorem skipBlank_spaces (count : Nat) (text : List Char) :
    skipBlank (List.replicate count ' ' ++ text) = skipBlank text := by
  induction count with
  | zero => rfl
  | succ count ih =>
    rw [List.replicate_succ, List.cons_append, skipBlank_of_blank (by decide), ih]

/-- A new line is a line break and four spaces for each level of indentation. -/
theorem toList_newline (indent : Nat) :
    (Tree.newline indent).toList = '\n' :: List.replicate (4 * indent) ' ' := by
  simp [Tree.newline]

/-- A new line is skipped with its indentation. -/
theorem skipBlank_newline (indent : Nat) (text : List Char) :
    skipBlank ((Tree.newline indent).toList ++ text) = skipBlank text := by
  rw [toList_newline, List.cons_append, skipBlank_of_blank (by decide), skipBlank_spaces]

/-- Behind blanks there are no more blanks. -/
theorem skipFrom_idem {state : BlankState} {text rest : List Char}
    (h : skipFrom state text = some rest) : skipBlank rest = some rest := by
  fun_induction skipFrom state text with
  -- The text ends between two words.
  | case1 => exact Option.some.inj h ▸ rfl
  -- A character that is no blank and opens no comment: reading stops in front of it.
  | case6 c text hline hblock hslash hblank =>
    rw [← Option.some.inj h]
    exact skipBlank_of_not_blank (by simpa using hblank) hslash text
  -- The text ends inside a line comment.
  | case7 => exact Option.some.inj h ▸ rfl
  -- Every other case refuses or reads on behind the character.
  | _ => simp_all

/-- Skipping blanks a second time skips nothing. -/
theorem skipBlank_idem {text rest : List Char} (h : skipBlank text = some rest) :
    skipBlank rest = some rest :=
  skipFrom_idem h

/-! ## Symbols and commas -/

/-- A symbol at the front of a text is read. -/
theorem symbol_cons (c : Char) (text : List Char) : symbol c (c :: text) = some text := by
  simp [symbol]

/-- A comma is read with the blanks behind it. -/
theorem comma_cons (text : List Char) :
    comma (',' :: text) = (skipBlank text).map fun rest => (true, rest) := by
  rw [comma, skipBlank_of_not_blank (by decide) (by decide)]
  change (skipBlank text >>= fun rest => some (true, rest)) = _
  cases skipBlank text <;> rfl

/-- No comma is read in front of a closing bracket. -/
theorem comma_close {c : Char} (hc : c = ')' ∨ c = ']') (text : List Char) :
    comma (c :: text) = some (false, c :: text) := by
  rcases hc with rfl | rfl
  · rw [comma, skipBlank_of_not_blank (by decide) (by decide)]
    rfl
  · rw [comma, skipBlank_of_not_blank (by decide) (by decide)]
    rfl

/-! ## Runs and words -/

/-- A text made of nonempty pieces has a character for each of them, so readers that are given one
step for each character, and one more, have enough. -/
theorem length_lt_flatMap_append {α : Type} {piece : α → List Char} (hpiece : ∀ a, piece a ≠ [])
    (items : List α) (rest : List Char) :
    items.length < (items.flatMap piece ++ rest).length + 1 := by
  induction items with
  | nil => simp
  | cons a items ih =>
    have ha := List.length_pos_iff.mpr (hpiece a)
    simp only [List.flatMap_cons, List.length_append, List.length_cons] at ih ⊢
    omega

/-- A run ends where a character follows that is not in it. -/
theorem run_append {p : Char → Bool} {front : List Char} (hfront : ∀ c ∈ front, p c = true)
    {rest : List Char} (hrest : ∀ c ∈ rest.head?, p c = false) :
    run p (front ++ rest) = (front, rest) := by
  obtain ⟨htake, hdrop⟩ := Binary32.takeWhile_dropWhile_append hfront hrest
  rw [run, htake, hdrop]

/-- What is false of a comma and of a closing bracket is false of what can stand behind a value. -/
theorem Ended.head_eq_false {p : Char → Bool} (hcomma : p ',' = false) (hclose : p ')' = false)
    {rest : List Char} (hrest : Ended rest) : ∀ c ∈ rest.head?, p c = false := by
  intro c hc
  rcases hrest c hc with rfl | rfl
  · exact hcomma
  · exact hclose

/-- A fixed string at the front of a text is read, whatever follows. -/
theorem fixed_append (expected : String) (rest : List Char) :
    fixed expected (expected.toList ++ rest) = some rest := by
  rw [fixed, if_pos (by simp), ← String.length_toList, List.drop_left]

/-- A fixed string is not read where another character stands first. -/
theorem fixed_eq_none {expected : String} {text : List Char}
    (h : ∀ c ∈ text.head?, ∀ d ∈ expected.toList.head?, c ≠ d) (hne : expected.toList ≠ []) :
    fixed expected text = none := by
  obtain ⟨d, tail, hd⟩ := List.exists_cons_of_ne_nil hne
  rw [fixed, hd, if_neg]
  cases text with
  | nil => simp
  | cons c text =>
    have hcd : d ≠ c := (h c rfl d (by rw [hd]; rfl)).symm
    simp [hcd]

/-- A word is not read where its string is not. -/
theorem word_eq_none_of_fixed {expected : String} {text : List Char}
    (h : fixed expected text = none) : word expected text = none := by
  rw [word, h]
  rfl

/-- A word is read where no identifier goes on. -/
theorem word_append (expected : String) {rest : List Char}
    (hrest : ∀ c ∈ rest.head?, Text.continuesIdentifier c = false) :
    word expected (expected.toList ++ rest) = some rest := by
  rw [word, fixed_append, Option.filter_some, if_pos]
  cases hhead : rest.head? with
  | none => rfl
  | some c =>
    have hc := hrest c hhead
    simp [hc]

/-! ## Names -/

/-- Whether a text can be written as a name. -/
def isName (name : String) : Bool :=
  name.toList.head?.any (fun c => Text.startsIdentifier c && opens c) &&
    name.toList.all Text.continuesIdentifier

/-- A name opens a value. -/
theorem opens_name {name : String} (hname : isName name = true) (rest : List Char) :
    (name.toList ++ rest).head?.any opens = true := by
  rw [isName, Bool.and_eq_true] at hname
  cases hchars : name.toList with
  | nil => simp [hchars] at hname
  | cons c text =>
    rw [hchars] at hname
    have hc : Text.startsIdentifier c = true ∧ opens c = true := by simpa using hname.1
    exact hc.2

/-- There are no blanks in front of a name. -/
theorem skipBlank_name {name : String} (hname : isName name = true) (rest : List Char) :
    skipBlank (name.toList ++ rest) = some (name.toList ++ rest) := by
  have hopens := opens_name hname rest
  cases hchars : name.toList ++ rest with
  | nil => rfl
  | cons c text =>
    rw [hchars] at hopens
    exact skipBlank_opens hopens text

/-- Whether a character ends a name. -/
def endsName (c : Char) : Bool := !continuesRaw c && c != '"' && c != '#'

/-- A name is read up to a character that ends it. -/
theorem identifier_append {name : String} (hname : isName name = true) {rest : List Char}
    (hrest : ∀ c ∈ rest.head?, endsName c = true) :
    identifier (name.toList ++ rest) = some (name, rest) := by
  have hends : ∀ c ∈ rest.head?, continuesRaw c = false ∧ c ≠ '"' ∧ c ≠ '#' := by
    intro c hc
    have hc := hrest c hc
    simp only [endsName, Bool.and_eq_true, Bool.not_eq_true', bne_iff_ne] at hc
    exact ⟨hc.1.1, hc.1.2, hc.2⟩
  rw [isName, Bool.and_eq_true, List.all_eq_true] at hname
  obtain ⟨hstart, hall⟩ := hname
  have hrun : run Text.continuesIdentifier (name.toList ++ rest) = (name.toList, rest) := by
    refine run_append hall fun c hc => ?_
    have hraw := (hends c hc).1
    rw [continuesRaw, Bool.or_eq_false_iff, Bool.or_eq_false_iff, Bool.or_eq_false_iff] at hraw
    exact hraw.1.1.1
  have hraw : rest.head?.any continuesRaw = false := by
    cases hhead : rest.head? with
    | none => rfl
    | some c => exact (hends c hhead).1
  cases hchars : name.toList with
  | nil => simp [hchars] at hstart
  | cons first tail =>
    rw [hchars] at hrun hstart hall
    have hfirst : Text.startsIdentifier first = true ∧ opens first = true := by simpa using hstart
    rw [List.cons_append] at hrun ⊢
    -- what follows the first character is neither a quote nor a hash
    have hsecond : ∀ d ∈ (tail ++ rest).head?, d ≠ '"' ∧ d ≠ '#' := by
      intro d hd
      cases tail with
      | nil => exact (hends d hd).2
      | cons e tail =>
        obtain rfl : e = d := by simpa using hd
        have he := hall e (by simp)
        constructor <;> rintro rfl <;> exact absurd he (by decide)
    unfold identifier
    split
    · next heq =>
      rw [List.cons.injEq] at heq
      exact absurd rfl (hsecond '"' (by rw [heq.2]; rfl)).1
    · next heq =>
      rw [List.cons.injEq] at heq
      exact absurd rfl (hsecond '#' (by rw [heq.2]; rfl)).2
    · next heq =>
      rw [List.cons.injEq] at heq
      rw [← heq.1, if_pos hfirst.1, hrun]
      simp [hraw, ← hchars]
    · next heq => exact absurd heq (by simp)

end ShaderGraph.Notation
