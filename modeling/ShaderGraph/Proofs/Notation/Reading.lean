import ShaderGraph.Proofs.Notation.Number
import ShaderGraph.Proofs.Notation.Quoted

/-!
# Reading values

Each way to write a value has a reader that gives the value back, whatever the indentation and
whatever follows. For values in brackets this is a statement about the readers of their parts, so
nested values are read back part by part. Plain, wrapped and tagged values are dealt with here.
-/

set_option autoImplicit false

namespace ShaderGraph.Notation

variable {α β σ : Type}

/-- Whether a reader gives back a value from its tree, with no more levels of nesting than given,
from a text without attributes. -/
structure ReadsBack (read : Reader α) (levels : Nat) (tree : Tree) (value : α) : Prop where
  opening : ∀ indent, (tree.write indent).toList.head?.any opens = true
  reads : ∀ (indent : Nat) (ctx : Context) (rest : List Char), ctx.style = .plain →
    levels ≤ ctx.room → Ended rest →
    read ctx ((tree.write indent).toList ++ rest) = some (value, rest)

/-- What is read wherever so many levels are left is read one level deeper with one level more. -/
theorem deeper_eq_some {read : Reader α} {levels : Nat} {ctx : Context} {text : List Char}
    {result : α × List Char} (hstyle : ctx.style = .plain) (hroom : levels + 1 ≤ ctx.room)
    (hread : ∀ inner : Context, inner.style = .plain → levels ≤ inner.room →
      read inner text = some result) : deeper read ctx text = some result := by
  obtain ⟨style, room⟩ := ctx
  obtain ⟨room, rfl⟩ := Nat.exists_eq_succ_of_ne_zero (Nat.ne_zero_of_lt hroom)
  exact hread ⟨style, room⟩ hstyle (Nat.le_of_succ_le_succ hroom)

namespace ReadsBack

variable {read : Reader α} {levels : Nat} {tree : Tree} {value : α}

/-- The text of a value begins with a character that opens one. -/
theorem exists_cons (h : ReadsBack read levels tree value) (indent : Nat) :
    ∃ c text, (tree.write indent).toList = c :: text ∧ opens c = true := by
  have hopening := h.opening indent
  cases hchars : (tree.write indent).toList with
  | nil => simp [hchars] at hopening
  | cons c text => exact ⟨c, text, rfl, by simpa [hchars] using hopening⟩

/-- There are no blanks in front of a value. -/
theorem skipBlank (h : ReadsBack read levels tree value) (indent : Nat) (rest : List Char) :
    Notation.skipBlank ((tree.write indent).toList ++ rest) =
      some ((tree.write indent).toList ++ rest) := by
  obtain ⟨c, text, hchars, hc⟩ := h.exists_cons indent
  rw [hchars, List.cons_append, skipBlank_opens hc]

/-- A value begins with a character that can be the first of one. -/
theorem head_ne (h : ReadsBack read levels tree value) (indent : Nat) (rest : List Char) {c : Char}
    (hc : opens c = false) : ((tree.write indent).toList ++ rest).head? ≠ some c := by
  obtain ⟨d, text, hchars, hd⟩ := h.exists_cons indent
  rw [hchars, List.cons_append, List.head?_cons, ne_eq, Option.some_inj]
  rintro rfl
  exact absurd hd (by simp [hc])

/-- A value that is read with some levels left is read one level deeper with one more. -/
theorem deeper (h : ReadsBack read levels tree value) :
    ReadsBack (Notation.deeper read) (levels + 1) tree value :=
  ⟨h.opening, fun indent _ctx rest hstyle hroom hrest => deeper_eq_some hstyle hroom
    fun inner hplain hlevels => h.reads indent inner rest hplain hlevels hrest⟩

/-- A value that is read with some levels left is read with more of them left. -/
theorem mono {levels' : Nat} (h : ReadsBack read levels tree value) (hle : levels ≤ levels') :
    ReadsBack read levels' tree value :=
  ⟨h.opening, fun indent ctx rest hstyle hroom => h.reads indent ctx rest hstyle (hle.trans hroom)⟩

/-- A value that is read is read as what a function makes of it, where that makes anything. -/
theorem mapped (h : ReadsBack read levels tree value) {f : α → Option β} {result : β}
    (hf : f value = some result) : ReadsBack (Notation.mapped f read) levels tree result := by
  refine ⟨h.opening, fun indent ctx rest hstyle hroom hrest => ?_⟩
  rw [Notation.mapped, h.reads indent ctx rest hstyle hroom hrest]
  change (f value >>= fun v => some (v, rest)) = _
  rw [hf]
  rfl

/-- A field that has not been given yet takes the value that is read. -/
theorem once (h : ReadsBack read levels tree value) (put : α → σ) :
    ReadsBack (Notation.once none read put) levels tree (put value) := by
  refine ⟨h.opening, fun indent ctx rest hstyle hroom hrest => ?_⟩
  change (read ctx ((tree.write indent).toList ++ rest) >>= fun result =>
    some (put result.1, result.2)) = _
  rw [h.reads indent ctx rest hstyle hroom hrest]
  rfl

end ReadsBack

/-! ## Plain values -/

/-- A word is written as it is. -/
theorem write_token (text : String) (indent : Nat) : (Tree.token text).write indent = text := rfl

/-- A natural number is read back if it fits the width. -/
theorem readsBack_nat {width n : Nat} (hn : n < 2 ^ width) :
    ReadsBack (nat width) 0 (.nat n) n := by
  refine ⟨fun indent => ?_, fun indent ctx rest _ _ hrest => ?_⟩
  · obtain ⟨c, text, hchars⟩ := List.exists_cons_of_ne_nil (@Nat.toDigits_ne_nil n 10)
    have hc := Binary32.isDigit_toDigits n c (by rw [hchars]; exact List.mem_cons_self)
    rw [Tree.nat, write_token, Nat.toString_eq_repr, Nat.toList_repr, hchars]
    exact opens_of_isDigit hc
  · rw [Tree.nat, write_token, Nat.toString_eq_repr, Nat.toList_repr, nat_append hn ctx hrest]

/-- A sign and a digit open a value. -/
theorem opens_signChars (negative : Bool) {digits : List Char} (hne : digits ≠ [])
    (hdigits : ∀ c ∈ digits, c.isDigit = true) (rest : List Char) :
    (Binary32.signChars negative ++ (digits ++ rest)).head?.any opens = true := by
  obtain ⟨c, text, rfl⟩ := List.exists_cons_of_ne_nil hne
  cases negative with
  | true => rfl
  | false => exact opens_of_isDigit (hdigits c List.mem_cons_self)

/-- Every integer of 32 bits is read back. -/
theorem readsBack_int32 (n : Int32) : ReadsBack int32 0 (.int n.toInt) n := by
  refine ⟨fun indent => ?_, fun indent ctx rest _ _ hrest => ?_⟩
  · have hopens := opens_signChars (decide (n.toInt < 0)) (@Nat.toDigits_ne_nil n.toInt.natAbs 10)
      (Binary32.isDigit_toDigits _) []
    rw [Tree.int, write_token, Binary32.toList_toString_int]
    simpa using hopens
  · rw [Tree.int, write_token, int32_append n ctx hrest]

/-- Every finite number is read back. -/
theorem readsBack_number {x : Binary32} (hx : x.isFinite = true) :
    ReadsBack number 0 (.float x) x := by
  refine ⟨fun indent => ?_, fun indent ctx rest _ _ hrest => ?_⟩
  · have hlayout : numberLayout.positional = none := rfl
    obtain ⟨whole, fraction, htext, hne, hwhole, -⟩ := Binary32.Layout.write_spec hlayout hx
    rw [Tree.float, write_token, htext]
    exact opens_signChars _ hne hwhole _
  · rw [Tree.float, write_token, number, float_append hx hrest]

/-- Both truth values are read back. -/
theorem readsBack_bool (b : Bool) : ReadsBack bool 0 (.bool b) b := by
  refine ⟨fun indent => ?_, fun indent ctx rest _ _ hrest => ?_⟩
  · rw [Tree.bool, write_token]
    cases b <;> rfl
  have hends := hrest.head_eq_false (p := Text.continuesIdentifier) (by decide) (by decide)
  cases b with
  | true => rw [Tree.bool, write_token, bool, if_pos rfl, word_append "true" hends]
  | false =>
    have htrue : word "true" ("false".toList ++ rest) = none :=
      word_eq_none_of_fixed (fixed_eq_none (by simp) (by simp))
    rw [Tree.bool, write_token, bool, if_neg (by simp), htrue, word_append "false" hends]
    rfl

/-- A name ends where a value does. -/
theorem endsName_ended {rest : List Char} (hrest : Ended rest) :
    ∀ c ∈ rest.head?, endsName c = true := by
  intro c hc
  rcases hrest c hc with rfl | rfl <;> decide

/-- A name is read back as what it stands for. -/
theorem readsBack_named {name : String} (hname : isName name = true) {f : String → Option α}
    {value : α} (hf : f name = some value) : ReadsBack (named f) 0 (.token name) value := by
  refine ⟨fun indent => ?_, fun indent ctx rest _ _ hrest => ?_⟩
  · have hopens := opens_name hname []
    rwa [List.append_nil] at hopens
  · rw [write_token, named, identifier_append hname (endsName_ended hrest)]
    change (f name >>= fun v => some (v, rest)) = _
    rw [hf]
    rfl

/-- A quoted text is written as it is quoted for debugging. -/
theorem write_quoted (text : String) (indent : Nat) :
    (Tree.quoted text).write indent = Text.quoteDebug true text := rfl

/-- Every text is read back from its quotes and escapes. -/
theorem readsBack_text (s : String) : ReadsBack text 0 (.quoted s) s := by
  refine ⟨fun indent => ?_, fun indent ctx rest _ _ _ => ?_⟩
  · rw [write_quoted, toList_quoteDebug]
    rfl
  · rw [write_quoted, text, string_append]

/-! ## Wrapped and tagged values -/

/-- A tagged value is written in brackets behind its tag. -/
theorem toList_tagged (tag : String) (content : Tree) (indent : Nat) :
    ((Tree.tagged tag content).write indent).toList =
      tag.toList ++ '(' :: ((content.write indent).toList ++ [')']) := by
  have hwrite : (Tree.tagged tag content).write indent =
      tag ++ "(" ++ content.write indent ++ ")" := rfl
  simp [hwrite]

/-- The same with more text behind, whose front is then the closing bracket. -/
theorem toList_tagged_append (tag : String) (content : Tree) (indent : Nat) (rest : List Char) :
    ((Tree.tagged tag content).write indent).toList ++ rest =
      tag.toList ++ '(' :: ((content.write indent).toList ++ ')' :: rest) := by
  simp [toList_tagged]

variable {levels : Nat} {tree : Tree}

/-- The content of a bracket is read up to the end of the bracket. -/
theorem ReadsBack.enclosed {read : Reader α} {value : α} (h : ReadsBack read levels tree value)
    {ctx : Context} (hstyle : ctx.style = .plain) (hroom : levels ≤ ctx.room) (indent : Nat)
    (rest : List Char) (f : α → β) :
    (do
      let text ← Notation.skipBlank ((tree.write indent).toList ++ ')' :: rest)
      let (value, text) ← read ctx text
      let (_, text) ← comma text
      return (f value, ← symbol ')' text)) = some (f value, rest) := by
  have hcontent := h.reads indent ctx (')' :: rest) hstyle hroom (ended_close rest)
  have hcomma := comma_close (Or.inl rfl) rest
  simp only [Option.bind_eq_bind, Option.bind_some, h.skipBlank, hcontent, hcomma, symbol_cons]
  rfl

/-- A record or a wrapper without a name begins at its bracket. -/
theorem recordName_open (name : String) {ctx : Context} (hstyle : ctx.style = .plain)
    (text : List Char) : recordName name ctx ('(' :: text) = some ('(' :: text) := by
  rw [recordName, hstyle]
  rfl

/-- A wrapped value is read back without the name of its wrapper, one level deeper. -/
theorem readsBack_wrapped {name : String} {content : Reader α} {value : α}
    (h : ReadsBack content levels tree value) :
    ReadsBack (wrapped name content) (levels + 1) (.tagged "" tree) value := by
  refine ⟨fun indent => by rw [toList_tagged]; rfl, fun indent ctx rest hstyle hroom _ => ?_⟩
  have hplain : ctx.style.bareWrappers = false := by
    rw [hstyle]
    rfl
  have hopen := skipBlank_of_not_blank (c := '(') (by decide) (by decide)
  rw [toList_tagged_append, String.toList_empty, List.nil_append, wrapped, hplain,
    if_neg (by simp), recordName_open name hstyle]
  simp only [Option.bind_eq_bind, Option.bind_some, hopen, symbol_cons]
  exact h.deeper.enclosed hstyle hroom indent rest id

/-- A tagged value is read back if its content is, two levels deeper. -/
theorem readsBack_tagged {tag : String} (htag : isName tag = true)
    {content : String → Option (Bool → Reader α)} {read : Bool → Reader α}
    (hread : content tag = some read) {value : α} (h : ReadsBack (read false) levels tree value) :
    ReadsBack (tagged content) (levels + 2) (.tagged tag tree) value := by
  refine ⟨fun indent => ?_, fun indent ctx rest hstyle hroom _ => ?_⟩
  · rw [toList_tagged]
    exact opens_name htag _
  have hplain : ctx.style.bareContents = false := by
    rw [hstyle]
    rfl
  have hopen := skipBlank_of_not_blank (c := '(') (by decide) (by decide)
  rw [toList_tagged_append, tagged, identifier_append htag (by simp; decide), hplain]
  simp only [Option.bind_eq_bind, Option.bind_some, hread, hopen, symbol_cons]
  exact h.deeper.deeper.enclosed hstyle hroom indent rest id

/-- The word for an absent value is read back as such. -/
theorem readsBack_optional_none {content : Bool → Reader α} :
    ReadsBack (optional content) 0 (.token "None") none := by
  refine ⟨fun indent => ?_, fun indent ctx rest _ _ hrest => ?_⟩
  · rw [write_token]
    rfl
  · have hends : ∀ c ∈ rest.head?, Text.continuesIdentifier c = false :=
      hrest.head_eq_false (by decide) (by decide)
    rw [write_token, optional, word_append "None" hends]

/-- A value that may be absent is read back if its content is, one level deeper. -/
theorem readsBack_optional_some {content : Bool → Reader α} {value : α}
    (h : ReadsBack (content false) levels tree value) :
    ReadsBack (optional content) (levels + 1) (.tagged "Some" tree) (some value) := by
  refine ⟨fun indent => by rw [toList_tagged]; rfl, fun indent ctx rest hstyle hroom _ => ?_⟩
  have hplain : ctx.style.bareContents = false := by
    rw [hstyle]
    rfl
  have hnone : word "None" ("Some".toList ++ '(' :: ((tree.write indent).toList ++ ')' :: rest)) =
      none := word_eq_none_of_fixed (fixed_eq_none (by simp) (by simp))
  have hopen := skipBlank_of_not_blank (c := '(') (by decide) (by decide)
  rw [toList_tagged_append, optional]
  dsimp only
  rw [hnone, word_append "Some" (by simp; decide), hplain]
  simp only [Option.bind_eq_bind, Option.bind_some, hopen]
  exact h.deeper.enclosed hstyle hroom indent rest some

end ShaderGraph.Notation
