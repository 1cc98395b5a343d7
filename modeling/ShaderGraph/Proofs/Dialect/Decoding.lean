import Mathlib.Data.List.ReduceOption
import ShaderGraph.Backend
import ShaderGraph.Proofs.Dialect.Phrase

/-!
# Reading phrases as expressions

A phrase is read without knowing in which language it was written: the words that the languages use
for types, functions and coordinates never stand for different things. The one thing that no text
tells is whether a type in front of a single expression converts it or makes a vector of it.
-/

set_option autoImplicit false

namespace ShaderGraph

open Binary32 (digitsValue signChars signAt signAt_signChars ofText? pointed IsNumeral)

/-! ## Expressions that are written alike -/

namespace Expr

/-- A type applied to expressions: to a single one, it is taken as a conversion. -/
def applied (type : ShaderType) : List Expr → Expr
  | [expr] => .convert type expr
  | args => .construct type args

mutual

/-- The expression with every vector made of a single expression taken as a conversion. -/
def merged : Expr → Expr
  | .construct type args => applied type (mergedAll args)
  | .convert type expr => .convert type expr.merged
  | .swizzle expr components => .swizzle expr.merged components
  | .binary op lhs rhs => .binary op lhs.merged rhs.merged
  | .call function args => .call function (mergedAll args)
  | .select cond onTrue onFalse => .select cond.merged onTrue.merged onFalse.merged
  | expr => expr

/-- The expressions of a list, each with its vectors taken as conversions. -/
def mergedAll : List Expr → List Expr
  | [] => []
  | expr :: rest => expr.merged :: mergedAll rest

end

/-- The expression with components selected one after the other. -/
def selected (expr : Expr) (selections : List Word) : Expr :=
  selections.foldl (fun expr components => .swizzle expr components.text) expr

end Expr

/-! ## Reading -/

/-- The number that a text shows, which is an integer if it has nothing but digits and a sign. -/
def numberOf? (text : List Char) : Option Expr :=
  let (negative, digits) := signAt text
  if digits.all Char.isDigit then
    some (.int (.ofInt (if negative then -(digitsValue digits : Int) else digitsValue digits)))
  else (ofText? text).map .float

/-- Whether a text begins as a number does. -/
def opensNumber (text : List Char) : Bool := (signAt text).2.head?.any Char.isDigit

namespace Word

/-- The words that stand for a value by themselves. -/
def constants : List (String × Expr) :=
  [("true", .bool true), ("false", .bool false),
   ("inf", .float (.ofMagnitude false Binary32.infiniteMagnitude)),
   ("-inf", .float (.ofMagnitude true Binary32.infiniteMagnitude)),
   ("in_generated", .input .generated), ("in_normal", .input .normal), ("in_uv", .input .uv)]

/-- The coordinates as members of the stage's input. -/
def coordinates : List (String × Expr) :=
  [("generated", .input .generated), ("normal", .input .normal), ("uv", .input .uv)]

/-- The expression that a word is. -/
def expr? (word : Word) : Option Expr :=
  if opensNumber word.chars then numberOf? word.chars
  else match word.chars with
    | 'p' :: '_' :: _ => some (.param word.text)
    | 'v' :: '_' :: _ | 't' :: '_' :: _ => some (.var word.text)
    | _ => constants.lookup word.text

/-- The expression that a word is with the first selection behind it: a number with a point, a
parameter or a coordinate. -/
def member? (front member : Word) : Option Expr :=
  if member.chars.head?.any Char.isDigit then
    (ofText? (front.chars ++ '.' :: member.chars)).map .float
  else if front.text = "params" then some (.param member.text)
  else if front.text = "in" then coordinates.lookup member.text
  else none

/-- The expression that a word is with the selections behind it. -/
def read? (front : Word) : List Word → Option Expr
  | [] => front.expr?
  | member :: selections =>
    match front.member? member with
    | some expr => some (expr.selected selections)
    | none => front.expr?.map (Expr.selected · (member :: selections))

end Word

/-- The separator of an operator's operands. -/
def BinaryOp.separator (op : BinaryOp) : Separator := .spaced ⟨op.symbol, by cases op <;> decide⟩

/-- What brackets without a word in front are. A single expression is a negative integer or a
parameter that is compared with nought. -/
def bracketed? (separators : List Separator) : List Expr → Option Expr
  | [expr] => some expr
  | [lhs, rhs] =>
    let ops : List BinaryOp := [.add, .sub, .mul, .div]
    (ops.find? fun op => separators == [op.separator]).map fun op => .binary op lhs rhs
  | [cond, onTrue, onFalse] => some (.select cond onTrue onFalse)
  | _ => none

/-- The type of a name in either language. -/
def typeNamed? (name : String) : Option ShaderType :=
  [.bool, .int, .float, .vec3, .vec4].find? fun type =>
    Wgsl.typeName type == name || Glsl.typeName type == name

/-- The function of a name. -/
def functionNamed? (name : String) : Option Builtin :=
  Builtin.all.find? fun function => function.functionName == name

/-- What brackets with a word in front are. Clamping has its bounds behind its arguments. -/
def appliedTo? (head : String) (args : List Expr) : Option Expr :=
  if head = "select" then
    match args with
    | [onFalse, onTrue, cond] => some (.select cond onTrue onFalse)
    | _ => none
  else if head = "clamp" then some (.call .saturate (args.take (args.length - 2)))
  else match typeNamed? head with
    | some type => some (.applied type args)
    | none => (functionNamed? head).map fun function => .call function args

/-- The separators of phrases. -/
def Phrases.separators : Phrases → List Separator
  | .nil => []
  | .cons separator _ rest => separator :: rest.separators

mutual

/-- The expression of a phrase. -/
def Phrase.read? : Phrase → Option Expr
  | .word front selections => front.read? selections
  | .group head first rest selections =>
    -- what cannot be read stands for nothing, such as the empty word of an empty argument list
    let args := (first.read? :: rest.reads).reduceOption
    (if head.text = "" then bracketed? rest.separators args else appliedTo? head.text args).map
      (Expr.selected · selections)

/-- The expressions of phrases, one by one. -/
def Phrases.reads : Phrases → List (Option Expr)
  | .nil => []
  | .cons _ phrase rest => phrase.read? :: rest.reads

end

/-! ## Texts that are read as an expression -/

/-- Whether a text is that of a phrase which is read as an expression. -/
def Shows (text : String) (expr : Expr) : Prop :=
  ∃ phrase : Phrase, phrase.chars = text.toList ∧ phrase.read? = some expr

/-- A text is read as one expression at most. -/
theorem Shows.unique {text : String} {a b : Expr} (ha : Shows text a) (hb : Shows text b) :
    a = b := by
  obtain ⟨p, hp, hreadp⟩ := ha
  obtain ⟨q, hq, hreadq⟩ := hb
  obtain rfl : p = q := Phrase.chars_injective (hp.trans hq.symm)
  exact Option.some.inj (hreadp.symm.trans hreadq)

/-! ### Words -/

/-- A sign does not end a word. -/
theorem unmarked_signChars (negative : Bool) : Unmarked (signChars negative) := by
  cases negative <;> decide

/-- Digits with or without a minus in front open a number, and the sign is told from the digits. -/
theorem opensNumber_append (negative : Bool) {digits : List Char} (hne : digits ≠ [])
    (hdigits : ∀ c ∈ digits, c.isDigit = true) (rest : List Char) :
    opensNumber (signChars negative ++ (digits ++ rest)) = true ∧
      signAt (signChars negative ++ (digits ++ rest)) = (negative, digits ++ rest) := by
  obtain ⟨c, digits, rfl⟩ := List.exists_cons_of_ne_nil hne
  have hc : c.isDigit = true := hdigits c List.mem_cons_self
  have hsign : signAt (signChars negative ++ (c :: digits ++ rest)) =
      (negative, c :: digits ++ rest) :=
    signAt_signChars negative fun d hd => by
      obtain rfl : c = d := by simpa using hd
      exact hc
  refine ⟨?_, hsign⟩
  rw [opensNumber, hsign]
  simp [hc]

/-- The two words for truth values are read as these. -/
theorem shows_bool (v : Bool) : Shows (if v then "true" else "false") (.bool v) := by
  cases v with
  | true => exact ⟨.word ⟨"true", by decide⟩ [], rfl, rfl⟩
  | false => exact ⟨.word ⟨"false", by decide⟩ [], rfl, rfl⟩

/-- The word of an integer. -/
def Word.ofInt (n : Int) : Word where
  text := toString n
  unmarked := by
    intro c hc
    rw [Binary32.toList_toString_int] at hc
    rcases List.mem_append.mp hc with hc | hc
    · exact unmarked_signChars _ c hc
    · exact isMark_of_isDigit (Binary32.isDigit_toDigits _ c hc)

/-- The word of an integer is read as that integer. -/
theorem Word.expr?_ofInt (n : Int) : (Word.ofInt n).expr? = some (.int (.ofInt n)) := by
  have hchars : (Word.ofInt n).chars =
      signChars (decide (n < 0)) ++ (Nat.toDigits 10 n.natAbs ++ []) := by
    rw [List.append_nil]
    exact Binary32.toList_toString_int n
  have hdigits := Binary32.isDigit_toDigits n.natAbs
  obtain ⟨hopens, hsign⟩ :=
    opensNumber_append (decide (n < 0)) Nat.toDigits_ne_nil hdigits []
  have hall : (Nat.toDigits 10 n.natAbs).all Char.isDigit = true := List.all_eq_true.mpr hdigits
  have hvalue : digitsValue (Nat.toDigits 10 n.natAbs) = n.natAbs := by
    rw [Binary32.digitsValue_eq, Nat.ofDigitChars_ten_toDigits]
  rw [← hchars] at hopens hsign
  rw [List.append_nil] at hsign
  have hint : (if decide (n < 0) = true then -(n.natAbs : Int) else n.natAbs) = n := by
    split_ifs with hneg <;> simp only [decide_eq_true_eq] at hneg <;> omega
  simp only [Word.expr?, hopens, if_true, numberOf?, hsign, hall, hvalue, hint]

/-- A negative integer is in brackets, which make no difference. -/
theorem shows_int (v : Int32) : Shows
    (if v < 0 then "(" ++ toString v.toInt ++ ")" else toString v.toInt) (.int v) := by
  have hread : (Word.ofInt v.toInt).expr? = some (.int v) := by
    rw [Word.expr?_ofInt, Int32.ofInt_toInt]
  split_ifs
  · refine ⟨.group .empty (.word (.ofInt v.toInt) []) .nil [], ?_, ?_⟩
    · simp [Phrase.chars, Phrases.chars, selectionChars, Word.chars, Word.ofInt, Word.empty]
    · simp [Phrase.read?, Phrases.reads, Word.read?, hread, List.reduceOption, bracketed?,
        Expr.selected, Word.empty]
  · refine ⟨.word (.ofInt v.toInt) [], ?_, hread⟩
    simp [Phrase.chars, selectionChars, Word.chars, Word.ofInt]

section Float

variable {text : String} {v : Binary32} {negative : Bool} {whole fraction exponent : List Char}
  {power : ℤ}

/-- The exponent of a numeral does not end a word. -/
theorem unmarked_exponent (h : IsNumeral whole fraction exponent power) : Unmarked exponent := by
  have hsigns : Unmarked ['e', '+', '-'] := by decide
  exact fun c hc => (h.exponent_chars c hc).elim isMark_of_isDigit (hsigns c)

/-- The digits in front of the point do not end a word, nor does the sign. -/
theorem unmarked_whole (h : IsNumeral whole fraction exponent power) (negative : Bool) :
    Unmarked (signChars negative ++ whole) :=
  List.forall_mem_append.mpr
    ⟨unmarked_signChars negative, fun c hc => isMark_of_isDigit (h.whole_isDigit c hc)⟩

/-- A numeral without a point is a single word. An exponent follows its digits, so that they do not
make up an integer. -/
theorem shows_exponential (h : IsNumeral whole [] exponent power)
    (htext : text.toList = signChars negative ++ (whole ++ exponent))
    (hread : ofText? text.toList = some v) : Shows text (.float v) := by
  obtain ⟨c, rest, rfl⟩ := List.exists_cons_of_ne_nil fun hnil => h.fraction_ne hnil rfl
  have hc : c.isDigit = false := (h.head_exponent c rfl).1
  have hall : (whole ++ c :: rest).all Char.isDigit = false := by simp [hc]
  obtain ⟨hopens, hsign⟩ :=
    opensNumber_append negative h.whole_ne h.whole_isDigit (c :: rest)
  rw [← htext] at hopens hsign
  have hunmarked : Unmarked text.toList := by
    rw [htext, ← List.append_assoc]
    exact List.forall_mem_append.mpr ⟨unmarked_whole h negative, unmarked_exponent h⟩
  refine ⟨.word ⟨text, hunmarked⟩ [], ?_, ?_⟩
  · simp [Phrase.chars, selectionChars, Word.chars]
  · simp [Phrase.read?, Word.read?, Word.expr?, Word.chars, hopens, numberOf?, hsign, hall, hread]

/-- What stands behind the point of a numeral is read with what stands before it. -/
theorem shows_pointed (h : IsNumeral whole fraction exponent power) (hne : fraction ≠ [])
    (htext : text.toList = signChars negative ++ whole ++ '.' :: (fraction ++ exponent))
    (hread : ofText? text.toList = some v) : Shows text (.float v) := by
  have hmember : Unmarked (fraction ++ exponent) :=
    List.forall_mem_append.mpr
      ⟨fun c hc => isMark_of_isDigit (h.fraction_isDigit c hc), unmarked_exponent h⟩
  have hdigit : (fraction ++ exponent).head?.any Char.isDigit = true := by
    obtain ⟨c, rest, rfl⟩ := List.exists_cons_of_ne_nil hne
    simpa using h.fraction_isDigit c List.mem_cons_self
  refine ⟨.word ⟨.ofList (signChars negative ++ whole), by simpa using unmarked_whole h negative⟩
    [⟨.ofList (fraction ++ exponent), by simpa using hmember⟩], ?_, ?_⟩
  · simp [Phrase.chars, selectionChars, Word.chars, htext]
  · simp only [Phrase.read?, Word.read?, Word.member?, Word.chars, String.toList_ofList, hdigit,
      if_true, ← htext, hread, Option.map_some, Expr.selected, List.foldl_nil]

/-- Every number but NaN is read from its literal. -/
theorem shows_float (hv : v.isNaN = false) : Shows (literalLayout.write v) (.float v) := by
  cases hfinite : v.isFinite with
  | false =>
    obtain ⟨hvalue, htext⟩ := literalLayout.write_infinite hv hfinite
    rw [htext]
    generalize v.isNegative = negative at hvalue
    subst hvalue
    cases negative with
    | true => exact ⟨.word ⟨"-inf", by decide⟩ [], rfl, rfl⟩
    | false => exact ⟨.word ⟨"inf", by decide⟩ [], rfl, rfl⟩
  | true =>
    obtain ⟨whole, fraction, exponent, power, htext, hnumeral, -, hread⟩ :=
      literalLayout.exists_numeral hfinite
    by_cases hnil : fraction = []
    · subst hnil
      exact shows_exponential hnumeral htext hread
    · rw [pointed, if_neg hnil, List.cons_append, ← List.append_assoc] at htext
      exact shows_pointed hnumeral hnil htext hread

end Float

/-- A word that begins as the name of a parameter does is one. -/
theorem Word.expr?_param {word : Word} {rest : List Char} (h : word.chars = 'p' :: '_' :: rest) :
    word.expr? = some (.param word.text) := by
  simp [expr?, h, opensNumber, signAt]

/-- A word that begins as the name of an output or of an intermediate value does is one. -/
theorem Word.expr?_var {word : Word} {c : Char} (hc : c = 'v' ∨ c = 't') {rest : List Char}
    (h : word.chars = c :: '_' :: rest) : word.expr? = some (.var word.text) := by
  rcases hc with rfl | rfl <;> simp [expr?, h, opensNumber, signAt]

/-- A word that is an expression shows it. -/
theorem Word.shows {word : Word} {expr : Expr} (h : word.expr? = some expr) :
    Shows word.text expr :=
  ⟨.word word [], by simp [Phrase.chars, selectionChars, chars], h⟩

/-! ### Selections -/

/-- The phrase with one more selection. -/
def Phrase.select (phrase : Phrase) (components : Word) : Phrase :=
  match phrase with
  | .word front selections => .word front (selections ++ [components])
  | .group head first rest selections => .group head first rest (selections ++ [components])

/-- Selecting one after the other, the last components are selected from the rest. -/
theorem Expr.selected_append (expr : Expr) (selections : List Word) (components : Word) :
    expr.selected (selections ++ [components]) =
      .swizzle (expr.selected selections) components.text := by
  simp [selected]

/-- The codes of letters are above those of digits. -/
theorem isDigit_of_isAlpha {c : Char} (hc : c.isAlpha = true) : c.isDigit = false := by
  have hletter : (decide (c.val ≥ 'A'.val ∧ c.val ≤ 'Z'.val) ||
      decide (c.val ≥ 'a'.val) && decide (c.val ≤ 'z'.val)) = true := hc
  simp only [Bool.or_eq_true, Bool.and_eq_true, decide_eq_true_eq, ge_iff_le,
    UInt32.le_iff_toNat_le] at hletter
  have hupper : 'A'.val.toNat = 65 := rfl
  have hlower : 'a'.val.toNat = 97 := rfl
  rw [Bool.eq_false_iff]
  intro hdigit
  have hcode : c.val.toNat ≤ 57 := (Char.isDigit_iff_toNat.mp hdigit).2
  omega

/-- Letters belong to no number, and no member is selected of a word that is an expression. -/
theorem Word.member?_letters {front components : Word} {expr : Expr} (h : front.expr? = some expr)
    (hletters : ∀ c ∈ components.chars, c.isAlpha = true) : front.member? components = none := by
  have hhead : components.chars.head?.any Char.isDigit = false := by
    cases hchars : components.chars with
    | nil => rfl
    | cons c rest =>
      have hc : c.isAlpha = true := hletters c (by rw [hchars]; exact List.mem_cons_self)
      simpa using isDigit_of_isAlpha hc
  have hparams : front.text ≠ "params" := by
    intro htext
    obtain rfl : front = ⟨"params", by decide⟩ := Word.ext htext
    exact Option.some_ne_none expr h.symm
  have hin : front.text ≠ "in" := by
    intro htext
    obtain rfl : front = ⟨"in", by decide⟩ := Word.ext htext
    exact Option.some_ne_none expr h.symm
  rw [member?, hhead, if_neg Bool.false_ne_true, if_neg hparams, if_neg hin]

/-- One more selection is a point and the components behind the phrase. -/
theorem Phrase.chars_select (phrase : Phrase) (components : Word) :
    (phrase.select components).chars = phrase.chars ++ '.' :: components.chars := by
  cases phrase <;> simp [select, chars, selectionChars]

/-- A selection of letters is read as one, whatever it is of. -/
theorem Phrase.read?_select {phrase : Phrase} {expr : Expr} (h : phrase.read? = some expr)
    {components : Word} (hletters : ∀ c ∈ components.chars, c.isAlpha = true) :
    (phrase.select components).read? = some (.swizzle expr components.text) := by
  cases phrase with
  | word front selections =>
    rw [read?] at h
    rw [select, read?]
    cases selections with
    | nil =>
      rw [List.nil_append, Word.read?, Word.member?_letters h hletters]
      rw [Word.read?] at h
      rw [h]
      rfl
    | cons member selections =>
      rw [List.cons_append, Word.read?]
      rw [Word.read?] at h
      cases hmember : front.member? member with
      | some expr' =>
        rw [hmember] at h
        obtain rfl := Option.some.inj h
        exact congrArg some (expr'.selected_append selections components)
      | none =>
        rw [hmember] at h
        obtain ⟨expr', hexpr, rfl⟩ := Option.map_eq_some_iff.mp h
        rw [hexpr]
        exact congrArg some (expr'.selected_append (member :: selections) components)
  | group head first rest selections =>
    rw [read?] at h
    obtain ⟨expr', hexpr, rfl⟩ := Option.map_eq_some_iff.mp h
    rw [select, read?, hexpr]
    exact congrArg some (expr'.selected_append selections components)

/-- Components behind a text are read as selected from what the text shows. -/
theorem Shows.swizzle {text : String} {expr : Expr} (h : Shows text expr) {components : String}
    (hletters : ∀ c ∈ components.toList, c.isAlpha = true) :
    Shows (text ++ "." ++ components) (.swizzle expr components) := by
  obtain ⟨phrase, hchars, hread⟩ := h
  have hunmarked : Unmarked components.toList := fun c hc =>
    isMark_of_isAlphanum (by simp [Char.isAlphanum, hletters c hc])
  refine ⟨phrase.select ⟨components, hunmarked⟩, ?_, Phrase.read?_select hread hletters⟩
  simp [Phrase.chars_select, hchars, Word.chars]

/-! ### Brackets -/

/-- Two expressions in brackets, around the separator of an operator, are its operands. -/
theorem bracketed?_binary (op : BinaryOp) (lhs rhs : Expr) :
    bracketed? [op.separator] [lhs, rhs] = some (.binary op lhs rhs) := by
  cases op <;> rfl

/-- An operator stands in brackets with its operands. -/
theorem Shows.binary {left right : String} {lhs rhs : Expr} (hlhs : Shows left lhs)
    (hrhs : Shows right rhs) (op : BinaryOp) :
    Shows ("(" ++ left ++ " " ++ op.symbol ++ " " ++ right ++ ")") (.binary op lhs rhs) := by
  obtain ⟨p, hp, hreadp⟩ := hlhs
  obtain ⟨q, hq, hreadq⟩ := hrhs
  refine ⟨.group .empty p (.cons op.separator q .nil) [], ?_, ?_⟩
  · simp [Phrase.chars, Phrases.chars, hp, hq, Separator.chars, BinaryOp.separator, selectionChars,
      Word.chars, Word.empty]
  · simp [Phrase.read?, Phrases.reads, Phrases.separators, hreadp, hreadq, List.reduceOption,
      Word.empty, bracketed?_binary, Expr.selected]

/-- A condition stands in brackets with the two values to choose from. -/
theorem Shows.conditional {condition left right : String} {cond onTrue onFalse : Expr}
    (hcond : Shows condition cond) (htrue : Shows left onTrue) (hfalse : Shows right onFalse) :
    Shows ("(" ++ condition ++ " ? " ++ left ++ " : " ++ right ++ ")")
      (.select cond onTrue onFalse) := by
  obtain ⟨p, hp, hreadp⟩ := hcond
  obtain ⟨q, hq, hreadq⟩ := htrue
  obtain ⟨r, hr, hreadr⟩ := hfalse
  refine ⟨.group .empty p (.cons (.spaced ⟨"?", by decide⟩) q
    (.cons (.spaced ⟨":", by decide⟩) r .nil)) [], ?_, ?_⟩
  · simp [Phrase.chars, Phrases.chars, hp, hq, hr, Separator.chars, selectionChars, Word.chars,
      Word.empty]
  · simp [Phrase.read?, Phrases.reads, hreadp, hreadq, hreadr, List.reduceOption, Word.empty,
      bracketed?, Expr.selected]

/-! ### Lists of arguments -/

/-- Phrases with a comma in front of each. -/
def Phrases.ofList : List Phrase → Phrases
  | [] => .nil
  | phrase :: rest => .cons .comma phrase (ofList rest)

/-- A list of phrases is written with a comma and a space in front of each. -/
theorem Phrases.chars_ofList (phrases : List Phrase) :
    (ofList phrases).chars = phrases.flatMap fun phrase => [',', ' '] ++ phrase.chars := by
  induction phrases with
  | nil => rfl
  | cons phrase rest ih => simp [ofList, chars, Separator.chars, ih]

/-- A list of phrases is read phrase by phrase. -/
theorem Phrases.reads_ofList (phrases : List Phrase) :
    (ofList phrases).reads = phrases.map Phrase.read? := by
  induction phrases with
  | nil => rfl
  | cons phrase rest ih => simp [ofList, reads, ih]

/-- A word applied to phrases. Without arguments an empty word stands in the brackets. -/
def Phrase.call (head : Word) (args more : List Phrase) : Phrase :=
  .group head (args.headD (.word .empty [])) (.ofList (args.tail ++ more)) []

/-- Texts with a separator between them are the first and then each of the others behind one. -/
theorem intercalate_cons (separator first : List Char) (rest : List (List Char)) :
    separator.intercalate (first :: rest) = first ++ rest.flatMap (separator ++ ·) := by
  induction rest generalizing first with
  | nil => simp
  | cons next rest ih => rw [List.intercalate_cons_cons, ih]; simp

/-- A word applied to phrases is written with all of them in brackets, set apart by commas. -/
theorem Phrase.chars_call (head : Word) (args more : List Phrase) :
    (call head args more).chars = head.chars ++ '(' ::
      ([',', ' '].intercalate (args.map chars) ++
        (more.flatMap fun phrase => [',', ' '] ++ phrase.chars) ++ [')']) := by
  cases args with
  | nil => simp [call, chars, Phrases.chars_ofList, selectionChars, Word.chars, Word.empty]
  | cons first rest =>
    rw [List.map_cons, intercalate_cons, List.flatMap_map]
    simp [call, chars, Phrases.chars_ofList, selectionChars]

/-- A word applied to phrases that can be read is read as the word applied to their expressions. -/
theorem Phrase.read?_call {head : Word} (hhead : head.text ≠ "") {phrases more : List Phrase}
    {args others : List Expr} (hargs : phrases.map read? = args.map some)
    (hothers : more.map read? = others.map some) :
    (call head phrases more).read? = appliedTo? head.text (args ++ others) := by
  have hsome (exprs : List Expr) : (exprs.map some).reduceOption = exprs := by
    simp [List.reduceOption]
  have hreads : ((phrases.headD (.word .empty [])).read? ::
      (phrases.tail ++ more).map read?).reduceOption = args ++ others := by
    cases phrases with
    | nil =>
      obtain rfl : args = [] := by simpa using hargs.symm
      have hempty : (Phrase.word .empty []).read? = none := rfl
      rw [List.headD_nil, hempty, List.reduceOption_cons_of_none, List.tail_nil, List.nil_append,
        List.nil_append, hothers, hsome]
    | cons first rest =>
      rw [List.headD_cons, List.tail_cons, ← List.map_cons, ← List.cons_append, List.map_append,
        hargs, hothers, ← List.map_append, hsome]
  rw [call, read?, Phrases.reads_ofList, hreads, if_neg hhead]
  simp [Expr.selected]

/-- Texts that are read one by one are those of phrases. -/
theorem exists_phrases {texts : List String} {exprs : List Expr}
    (h : List.Forall₂ Shows texts exprs) : ∃ phrases : List Phrase,
      phrases.map Phrase.chars = texts.map String.toList ∧
        phrases.map Phrase.read? = exprs.map some := by
  induction h with
  | nil => exact ⟨[], rfl, rfl⟩
  | cons h _ ih =>
    obtain ⟨phrase, hchars, hread⟩ := h
    obtain ⟨phrases, hphrases, hreads⟩ := ih
    exact ⟨phrase :: phrases, by simp [hchars, hphrases], by simp [hread, hreads]⟩

/-- A word stands in front of its arguments, which may have others behind them. -/
theorem shows_appliedTo {head : String} (hword : Unmarked head.toList)
    (hhead : head ≠ "") {texts more : List String} {args others : List Expr}
    (hargs : List.Forall₂ Shows texts args) (hothers : List.Forall₂ Shows more others) {expr : Expr}
    (h : appliedTo? head (args ++ others) = some expr) :
    Shows (head ++ "(" ++ ", ".intercalate texts ++ String.join (more.map (", " ++ ·)) ++ ")")
      expr := by
  obtain ⟨phrases, hchars, hreads⟩ := exists_phrases hargs
  obtain ⟨morePhrases, hmore, hmoreReads⟩ := exists_phrases hothers
  refine ⟨.call ⟨head, hword⟩ phrases morePhrases, ?_, ?_⟩
  · have hmoreChars : (morePhrases.flatMap fun phrase => [',', ' '] ++ phrase.chars) =
        more.flatMap fun text => [',', ' '] ++ text.toList := by
      rw [← List.flatMap_map Phrase.chars ([',', ' '] ++ ·), hmore, List.flatMap_map]
    have hjoin : (String.join (more.map (", " ++ ·))).toList =
        more.flatMap fun text => [',', ' '] ++ text.toList := by
      simp [List.flatMap_map]
    rw [Phrase.chars_call, hchars, hmoreChars]
    simp [hjoin, String.toList_intercalate, Word.chars]
  · rw [Phrase.read?_call hhead hreads hmoreReads, h]

/-- A word stands in front of its arguments. -/
theorem shows_apply {head : String} (hword : Unmarked head.toList)
    (hhead : head ≠ "") {texts : List String} {args : List Expr}
    (hargs : List.Forall₂ Shows texts args) {expr : Expr} (h : appliedTo? head args = some expr) :
    Shows (head ++ "(" ++ ", ".intercalate texts ++ ")") expr := by
  rw [← List.append_nil args] at h
  simpa using shows_appliedTo hword hhead hargs .nil h

end ShaderGraph
