import Mathlib.Data.List.Forall2
import ShaderGraph.Proofs.Notation.Reading

/-!
# Reading tuples and lists

The items of a tuple stand on one line, those of a list on lines of their own. Both are read back
if each of their items is, by induction on the items: what one step leaves is the text of the
remaining items with the closing bracket behind them.
-/

set_option autoImplicit false

namespace ShaderGraph.Notation

variable {α : Type}

/-! ## Tuples -/

/-- Trees are written one by one. -/
theorem writeEach_eq_map (indent : Nat) (items : List Tree) :
    Tree.writeEach indent items = items.map (Tree.write indent) := by
  induction items with
  | nil => rfl
  | cons item rest ih =>
    change item.write indent :: Tree.writeEach indent rest = _
    rw [ih]
    rfl

/-- The items of a tuple with a comma and a space between them. -/
def tupleChars (indent : Nat) (items : List Tree) : List Char :=
  (", ".intercalate (items.map (Tree.write indent))).toList

/-- A single entry has no comma. -/
theorem tupleChars_singleton (indent : Nat) (item : Tree) :
    tupleChars indent [item] = (item.write indent).toList := by
  simp [tupleChars]

/-- Further entries stand behind a comma and a space. -/
theorem tupleChars_cons_cons (indent : Nat) (item next : Tree) (items : List Tree) :
    tupleChars indent (item :: next :: items) =
      (item.write indent).toList ++ ',' :: ' ' :: tupleChars indent (next :: items) := by
  simp [tupleChars]

/-- A tuple is written with its entries in brackets, on one line. -/
theorem toList_tuple (indent : Nat) (items : List Tree) :
    ((Tree.tuple items).write indent).toList = '(' :: (tupleChars indent items ++ [')']) := by
  have hwrite : (Tree.tuple items).write indent =
      "(" ++ ", ".intercalate (Tree.writeEach indent items) ++ ")" := rfl
  rw [hwrite, writeEach_eq_map]
  simp [tupleChars]

/-- One entry of a tuple, and what is read behind it. -/
theorem countedEntries_succ {close : Char} {entry : Reader α} {ctx : Context} {count : Nat}
    {text after more : List Char} {value : α} {separated : Bool}
    (hskip : skipBlank text = some text) (hhead : text.head? ≠ some close)
    (hread : Notation.deeper entry ctx text = some (value, after))
    (hcomma : comma after = some (separated, more)) :
    countedEntries close entry ctx (count + 1) true text =
      (countedEntries close entry ctx count separated more).map fun (others, rest) =>
        (value :: others, rest) := by
  have hopen : (true && text.head? != some close) = true := by simpa using hhead
  simp only [countedEntries, Option.bind_eq_bind, hskip, Option.bind_some, hopen, guard, if_true,
    hread, hcomma]
  cases countedEntries close entry ctx count separated more <;> rfl

/-- The items of a tuple are read one by one up to its bracket. -/
theorem countedEntries_tupleChars {entry : Reader α} {levels : Nat} {ctx : Context}
    (hstyle : ctx.style = .plain) (hroom : levels + 1 ≤ ctx.room) (indent : Nat) (rest : List Char)
    {item : Tree} {value : α} (h : ReadsBack entry levels item value) {items : List Tree}
    {values : List α} (hitems : List.Forall₂ (ReadsBack entry levels) items values) :
    countedEntries ')' entry ctx (items.length + 1) true
      (tupleChars indent (item :: items) ++ ')' :: rest) = some (value :: values, ')' :: rest) := by
  induction hitems generalizing item value with
  | nil =>
    rw [tupleChars_singleton]
    exact countedEntries_succ (h.skipBlank indent _) (h.head_ne indent _ (by decide))
      (h.deeper.reads indent ctx _ hstyle hroom (ended_close rest))
      (comma_close (Or.inl rfl) rest)
  | @cons next nextValue items values hnext hitems ih =>
    generalize hmore : tupleChars indent (next :: items) ++ ')' :: rest = more
    have hnextSkip : skipBlank more = some more := by
      cases items with
      | nil =>
        rw [← hmore, tupleChars_singleton]
        exact hnext.skipBlank indent _
      | cons third items =>
        rw [← hmore, tupleChars_cons_cons, List.append_assoc]
        exact hnext.skipBlank indent _
    have htext : tupleChars indent (item :: next :: items) ++ ')' :: rest =
        (item.write indent).toList ++ ',' :: ' ' :: more := by
      rw [tupleChars_cons_cons, ← hmore]
      simp
    have hcomma : comma (',' :: ' ' :: more) = some (true, more) := by
      rw [comma_cons, skipBlank_of_blank (by decide), hnextSkip]
      rfl
    rw [htext, countedEntries_succ (h.skipBlank indent _) (h.head_ne indent _ (by decide))
      (h.deeper.reads indent ctx _ hstyle hroom (ended_comma _)) hcomma, ← hmore, List.length_cons,
      ih hnext]
    rfl

/-- A tuple is read back entry by entry, two levels deeper, if their number is the expected one. -/
theorem readsBack_tuple {entry : Reader α} {levels : Nat} {items : List Tree} {values : List α}
    (hne : items ≠ []) (hitems : List.Forall₂ (ReadsBack entry levels) items values) {count : Nat}
    (hcount : count = items.length) :
    ReadsBack (tuple count entry false) (levels + 2) (.tuple items) values := by
  subst hcount
  refine ⟨fun indent => by rw [toList_tuple]; rfl, fun indent ctx rest hstyle hroom _ => ?_⟩
  cases hitems with
  | nil => exact absurd rfl hne
  | @cons item value items values hitem hitems =>
    have hinner : deeper (fun ctx text => countedEntries ')' entry ctx (items.length + 1) true text)
        ctx (tupleChars indent (item :: items) ++ ')' :: rest) =
          some (value :: values, ')' :: rest) :=
      deeper_eq_some hstyle hroom fun _ hplain hlevels =>
        countedEntries_tupleChars hplain hlevels indent rest hitem hitems
    have htext : ((Tree.tuple (item :: items)).write indent).toList ++ rest =
        '(' :: (tupleChars indent (item :: items) ++ ')' :: rest) := by
      simp [toList_tuple]
    have hclose := skipBlank_of_not_blank (c := ')') (by decide) (by decide) rest
    rw [htext, tuple, bracketed]
    simp only [Option.bind_eq_bind, Option.bind_some, Bool.false_eq_true, if_false, symbol_cons,
      List.length_cons, hinner, hclose]
    rfl

/-! ## Lists -/

/-- The items of a list, each on a line of its own. -/
def itemChars (indent : Nat) (items : List Tree) : List Char :=
  items.flatMap fun item => (Tree.newline indent).toList ++ ((item.write indent).toList ++ [','])

/-- The first item stands on a line of its own, with a comma behind it. -/
theorem itemChars_cons (indent : Nat) (item : Tree) (items : List Tree) (rest : List Char) :
    itemChars indent (item :: items) ++ rest = (Tree.newline indent).toList ++
      ((item.write indent).toList ++ ',' :: (itemChars indent items ++ rest)) := by
  simp [itemChars]

/-- A list with items is written in brackets, the closing one on a line of its own. -/
theorem toList_list (indent : Nat) {items : List Tree} (hne : items ≠ []) :
    ((Tree.list items).write indent).toList =
      '[' :: (itemChars (indent + 1) items ++ ((Tree.newline indent).toList ++ [']'])) := by
  have hwrite : (Tree.list items).write indent =
      if items.isEmpty then "[]"
      else "[" ++ String.join ((Tree.writeEach (indent + 1) items).map fun text =>
        Tree.newline (indent + 1) ++ text ++ ",") ++ Tree.newline indent ++ "]" := rfl
  rw [hwrite, if_neg (by simpa using hne), writeEach_eq_map]
  simp [itemChars, List.flatMap_map]

/-- No entry is left at the closing bracket. -/
theorem entries_of_close {close : Char} {entry : Reader α} {ctx : Context} {fuel : Nat}
    {separated : Bool} {text rest : List Char} (hskip : skipBlank text = some (close :: rest)) :
    entries close entry ctx (fuel + 1) separated text = some ([], close :: rest) := by
  simp [entries, hskip]

/-- One entry of a list, and what is read behind it. -/
theorem entries_succ {close : Char} {entry : Reader α} {ctx : Context} {fuel : Nat}
    {text start after more : List Char} {value : α} {separated : Bool}
    (hskip : skipBlank text = some start) (hhead : start.head? ≠ some close)
    (hread : Notation.deeper entry ctx start = some (value, after))
    (hcomma : comma after = some (separated, more)) :
    entries close entry ctx (fuel + 1) true text =
      (entries close entry ctx fuel separated more).map fun (others, rest) =>
        (value :: others, rest) := by
  simp only [entries, Option.bind_eq_bind, hskip, Option.bind_some, if_neg hhead, guard, if_true,
    hread, hcomma]
  cases entries close entry ctx fuel separated more <;> rfl

/-- Entries are read behind blanks. -/
theorem entries_skipBlank {close : Char} {entry : Reader α} {ctx : Context} {fuel : Nat}
    {separated : Bool} {text start : List Char} (hskip : skipBlank text = some start) :
    entries close entry ctx fuel separated start = entries close entry ctx fuel separated text := by
  cases fuel with
  | zero => rfl
  | succ fuel => simp only [entries, hskip, skipBlank_idem hskip]

/-- The items of a list are read line by line up to its bracket. -/
theorem entries_itemChars {entry : Reader α} {levels : Nat} {ctx : Context}
    (hstyle : ctx.style = .plain) (hroom : levels + 1 ≤ ctx.room) (indent : Nat)
    {closing rest : List Char} (hclosing : skipBlank closing = some (']' :: rest))
    {items : List Tree} {values : List α}
    (hitems : List.Forall₂ (ReadsBack entry levels) items values) {fuel : Nat}
    (hfuel : items.length < fuel) :
    entries ']' entry ctx fuel true (itemChars indent items ++ closing) =
      some (values, ']' :: rest) := by
  obtain ⟨fuel, rfl⟩ := Nat.exists_eq_succ_of_ne_zero (Nat.ne_zero_of_lt hfuel)
  induction hitems generalizing fuel with
  | nil => exact entries_of_close hclosing
  | @cons item value items values hitem hitems ih =>
    obtain ⟨fuel, rfl⟩ := Nat.exists_eq_succ_of_ne_zero
      (Nat.ne_zero_of_lt (Nat.lt_of_succ_lt_succ hfuel))
    obtain ⟨start, hstart⟩ : ∃ start,
        skipBlank (itemChars indent items ++ closing) = some start := by
      cases hitems with
      | nil => exact ⟨_, hclosing⟩
      | cons hnext hitems =>
        rw [itemChars_cons, skipBlank_newline]
        exact ⟨_, hnext.skipBlank indent _⟩
    have hskip : skipBlank (itemChars indent (item :: items) ++ closing) =
        some ((item.write indent).toList ++ ',' :: (itemChars indent items ++ closing)) := by
      rw [itemChars_cons, skipBlank_newline]
      exact hitem.skipBlank indent _
    have hcomma : comma (',' :: (itemChars indent items ++ closing)) = some (true, start) := by
      rw [comma_cons, hstart]
      rfl
    rw [entries_succ hskip (hitem.head_ne indent _ (by decide))
      (hitem.deeper.reads indent ctx _ hstyle hroom (ended_comma _)) hcomma,
      entries_skipBlank hstart, ih fuel (Nat.lt_of_succ_lt_succ hfuel)]
    rfl

/-- A list is read back item by item, two levels deeper. -/
theorem readsBack_list {entry : Reader α} {levels : Nat} {items : List Tree} {values : List α}
    (hitems : List.Forall₂ (ReadsBack entry levels) items values) :
    ReadsBack (list entry) (levels + 2) (.list items) values := by
  by_cases hne : items = []
  · subst hne
    cases hitems
    have hwrite (indent : Nat) : (Tree.list []).write indent = "[]" := rfl
    refine ⟨fun indent => by rw [hwrite]; rfl, fun indent ctx rest hstyle hroom _ => ?_⟩
    have hclose := skipBlank_of_not_blank (c := ']') (by decide) (by decide) rest
    have hinner : deeper (fun ctx text => entries ']' entry ctx (text.length + 1) true text) ctx
        (']' :: rest) = some ([], ']' :: rest) :=
      deeper_eq_some hstyle hroom fun _ _ _ => entries_of_close hclose
    rw [hwrite]
    change list entry ctx ('[' :: ']' :: rest) = _
    simp only [list, Option.bind_eq_bind, symbol_cons, Option.bind_some, hinner, hclose]
    rfl
  · refine ⟨fun indent => by rw [toList_list indent hne]; rfl,
      fun indent ctx rest hstyle hroom _ => ?_⟩
    generalize hclosed : (Tree.newline indent).toList ++ ']' :: rest = closing
    have hclose := skipBlank_of_not_blank (c := ']') (by decide) (by decide) rest
    have hclosing : skipBlank closing = some (']' :: rest) := by
      rw [← hclosed, skipBlank_newline, hclose]
    have htext : ((Tree.list items).write indent).toList ++ rest =
        '[' :: (itemChars (indent + 1) items ++ closing) := by
      rw [toList_list indent hne, ← hclosed]
      simp
    have hfuel : items.length < (itemChars (indent + 1) items ++ closing).length + 1 :=
      length_lt_flatMap_append (by simp) items closing
    have hinner : deeper (fun ctx text => entries ']' entry ctx (text.length + 1) true text) ctx
        (itemChars (indent + 1) items ++ closing) = some (values, ']' :: rest) :=
      deeper_eq_some hstyle hroom fun _ hplain hlevels =>
        entries_itemChars hplain hlevels (indent + 1) hclosing hitems hfuel
    rw [htext]
    simp only [list, Option.bind_eq_bind, symbol_cons, Option.bind_some, hinner, hclose]
    rfl

end ShaderGraph.Notation
