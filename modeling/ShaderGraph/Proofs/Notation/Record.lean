import ShaderGraph.Proofs.Notation.Reading

/-!
# Reading records

The fields of a record stand on lines of their own. A record is read back if each of its fields is,
by induction on the fields: reading them one after the other takes the start state to the last.
-/

set_option autoImplicit false

namespace ShaderGraph.Notation

variable {σ : Type}

/-- Whether the fields of a record, read one after the other, take a state to another. -/
inductive ReadsFields (field : String → σ → Reader σ) (levels : Nat) :
    σ → List (String × Tree) → σ → Prop
  | nil (state : σ) : ReadsFields field levels state [] state
  | cons {state next last : σ} {name : String} {tree : Tree} {rest : List (String × Tree)} :
      isName name = true → ReadsBack (field name state) levels tree next →
      ReadsFields field levels next rest last →
      ReadsFields field levels state ((name, tree) :: rest) last

/-- The fields of a record, each on a line of its own. -/
def fieldChars (indent : Nat) (entries : List (String × Tree)) : List Char :=
  entries.flatMap fun (name, tree) => (Tree.newline indent).toList ++
    (name.toList ++ ':' :: ' ' :: ((tree.write indent).toList ++ [',']))

/-- The first field stands on a line of its own, with its name, a colon, its value and a comma. -/
theorem fieldChars_cons (indent : Nat) (name : String) (tree : Tree)
    (entries : List (String × Tree)) (rest : List Char) :
    fieldChars indent ((name, tree) :: entries) ++ rest = (Tree.newline indent).toList ++
      (name.toList ++ ':' :: ' ' :: ((tree.write indent).toList ++
        ',' :: (fieldChars indent entries ++ rest))) := by
  simp [fieldChars]

/-- Fields are written with the characters above. -/
theorem toList_writeFields (indent : Nat) (entries : List (String × Tree)) :
    (Tree.writeFields indent entries).toList = fieldChars indent entries := by
  induction entries with
  | nil => rfl
  | cons entry entries ih =>
    obtain ⟨name, tree⟩ := entry
    have hwrite : Tree.writeFields indent ((name, tree) :: entries) =
        Tree.newline indent ++ name ++ ": " ++ tree.write indent ++ "," ++
          Tree.writeFields indent entries := rfl
    have hcons := fieldChars_cons indent name tree entries []
    rw [List.append_nil, List.append_nil] at hcons
    rw [hwrite, hcons, String.toList_append, ih]
    simp

/-- A record is written with its fields in brackets, the closing one on a line of its own. -/
theorem toList_record (indent : Nat) (entries : List (String × Tree)) :
    ((Tree.record "" entries).write indent).toList =
      '(' :: (fieldChars (indent + 1) entries ++ ((Tree.newline indent).toList ++ [')'])) := by
  have hwrite : (Tree.record "" entries).write indent =
      "" ++ "(" ++ Tree.writeFields (indent + 1) entries ++ Tree.newline indent ++ ")" := rfl
  rw [hwrite]
  simp [toList_writeFields]

/-- No field is left at the closing bracket. -/
theorem fields_of_close {field : String → σ → Reader σ} {ctx : Context} {fuel : Nat}
    {separated : Bool} {state : σ} {text rest : List Char}
    (hskip : skipBlank text = some (')' :: rest)) :
    fields field ctx (fuel + 1) separated state text = some (state, ')' :: rest) := by
  simp [fields, hskip]

/-- One field of a record, and what is read behind it. -/
theorem fields_succ {field : String → σ → Reader σ} {ctx : Context} {fuel : Nat} {state next : σ}
    {text more after start : List Char} {name : String} (hname : isName name = true)
    (hskip : skipBlank text = some (name.toList ++ ':' :: ' ' :: start))
    (hstart : skipBlank start = some start)
    (hread : Notation.deeper (field name state) ctx start = some (next, after)) {separated : Bool}
    (hcomma : comma after = some (separated, more)) :
    fields field ctx (fuel + 1) true state text = fields field ctx fuel separated next more := by
  have hclose : (name.toList ++ ':' :: ' ' :: start).head? ≠ some ')' := by
    intro hhead
    have hopens := opens_name hname (':' :: ' ' :: start)
    rw [hhead] at hopens
    exact absurd hopens (by decide)
  have hidentifier : identifier (name.toList ++ ':' :: ' ' :: start) =
      some (name, ':' :: ' ' :: start) := identifier_append hname (by simp; decide)
  have hcolon := skipBlank_of_not_blank (c := ':') (by decide) (by decide) (' ' :: start)
  have hspace : skipBlank (' ' :: start) = some start := by
    rw [skipBlank_of_blank (by decide), hstart]
  simp only [fields, Option.bind_eq_bind, hskip, Option.bind_some, if_neg hclose, guard, if_true,
    hidentifier, hcolon, symbol_cons, hspace, hread, hcomma]
  rfl

/-- Fields are read behind blanks. -/
theorem fields_skipBlank {field : String → σ → Reader σ} {ctx : Context} {fuel : Nat}
    {separated : Bool} {state : σ} {text start : List Char} (hskip : skipBlank text = some start) :
    fields field ctx fuel separated state start = fields field ctx fuel separated state text := by
  cases fuel with
  | zero => rfl
  | succ fuel => simp only [fields, hskip, skipBlank_idem hskip]

/-- The fields of a record are read line by line up to its bracket. -/
theorem fields_fieldChars {field : String → σ → Reader σ} {levels : Nat} {ctx : Context}
    (hstyle : ctx.style = .plain) (hroom : levels + 1 ≤ ctx.room) (indent : Nat)
    {closing rest : List Char} (hclosing : skipBlank closing = some (')' :: rest)) {state last : σ}
    {entries : List (String × Tree)} (hfields : ReadsFields field levels state entries last)
    {fuel : Nat} (hfuel : entries.length < fuel) :
    fields field ctx fuel true state (fieldChars indent entries ++ closing) =
      some (last, ')' :: rest) := by
  obtain ⟨fuel, rfl⟩ := Nat.exists_eq_succ_of_ne_zero (Nat.ne_zero_of_lt hfuel)
  induction hfields generalizing fuel with
  | nil => exact fields_of_close hclosing
  | @cons state next last name tree entries hname hread hfields ih =>
    obtain ⟨fuel, rfl⟩ := Nat.exists_eq_succ_of_ne_zero
      (Nat.ne_zero_of_lt (Nat.lt_of_succ_lt_succ hfuel))
    obtain ⟨start, hstart⟩ :
        ∃ start, skipBlank (fieldChars indent entries ++ closing) = some start := by
      cases hfields with
      | nil => exact ⟨_, hclosing⟩
      | cons hnext hread hfields =>
        rw [fieldChars_cons, skipBlank_newline]
        exact ⟨_, skipBlank_name hnext _⟩
    have hskip : skipBlank (fieldChars indent ((name, tree) :: entries) ++ closing) =
        some (name.toList ++ ':' :: ' ' :: ((tree.write indent).toList ++
          ',' :: (fieldChars indent entries ++ closing))) := by
      rw [fieldChars_cons, skipBlank_newline]
      exact skipBlank_name hname _
    have hcomma : comma (',' :: (fieldChars indent entries ++ closing)) = some (true, start) := by
      rw [comma_cons, hstart]
      rfl
    rw [fields_succ hname hskip (hread.skipBlank indent _)
      (hread.deeper.reads indent ctx _ hstyle hroom (ended_comma _)) hcomma,
      fields_skipBlank hstart, ih fuel (Nat.lt_of_succ_lt_succ hfuel)]

/-- A record is read back if its fields are, two levels deeper. -/
theorem readsBack_record {name : String} {field : String → σ → Reader σ} {levels : Nat}
    {start last : σ} {entries : List (String × Tree)}
    (hfields : ReadsFields field levels start entries last) :
    ReadsBack (record name field start false) (levels + 2) (.record "" entries) last := by
  refine ⟨fun indent => by rw [toList_record]; rfl, fun indent ctx rest hstyle hroom _ => ?_⟩
  generalize hclosed : (Tree.newline indent).toList ++ ')' :: rest = closing
  have hclose := skipBlank_of_not_blank (c := ')') (by decide) (by decide) rest
  have hopen := skipBlank_of_not_blank (c := '(') (by decide) (by decide)
  have hclosing : skipBlank closing = some (')' :: rest) := by
    rw [← hclosed, skipBlank_newline, hclose]
  have htext : ((Tree.record "" entries).write indent).toList ++ rest =
      '(' :: (fieldChars (indent + 1) entries ++ closing) := by
    rw [toList_record, ← hclosed]
    simp
  have hfuel : entries.length < (fieldChars (indent + 1) entries ++ closing).length + 1 :=
    length_lt_flatMap_append (by simp) entries closing
  have hinner : deeper (fun ctx text => fields field ctx (text.length + 1) true start text) ctx
      (fieldChars (indent + 1) entries ++ closing) = some (last, ')' :: rest) :=
    deeper_eq_some hstyle hroom fun _ hplain hlevels =>
      fields_fieldChars hplain hlevels (indent + 1) hclosing hfields hfuel
  rw [htext, record]
  simp only [Bool.false_eq_true, if_false, recordName_open name hstyle, Option.bind_eq_bind,
    Option.bind_some, hopen, bracketed, symbol_cons, hinner, hclose]
  rfl

end ShaderGraph.Notation
