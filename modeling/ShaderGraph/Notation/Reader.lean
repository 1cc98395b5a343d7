import ShaderGraph.Notation.Quoted

/-!
# Reading object notation

A reader takes the rest of a text and gives a value and what follows it, or nothing where the text
does not hold such a value. Entries of records, tuples and lists are separated by commas, and one
comma may follow the last of them. Attributes at the front of a text relax or tighten what is
accepted, and values nested too deeply are refused: a container counts as one level, and so does
each entry in it.
-/

set_option autoImplicit false

namespace ShaderGraph.Notation

/-- What the attributes at the front of a text ask for. -/
structure Style where
  /-- A present option may be written without its tag. -/
  implicitSome : Bool
  /-- Wrapped values are written without their brackets. -/
  bareWrappers : Bool
  /-- The content of a tagged value is written without its own brackets. -/
  bareContents : Bool
  /-- Records must show their names. -/
  namedRecords : Bool

/-- The style of a text without attributes. -/
def Style.plain : Style := ⟨false, false, false, false⟩

/-- Levels of nesting that a text may have. -/
def nestingLimit : Nat := 128

/-- What a reader has to know: the style, and the levels of nesting left. -/
structure Context where
  style : Style
  room : Nat

/-- Reads a value from the front of a text. -/
abbrev Reader (α : Type) := Context → List Char → Option (α × List Char)

variable {α β σ : Type}

/-- Reads one level deeper. -/
def deeper (read : Reader α) : Reader α := fun ctx text =>
  match ctx.room with
  | 0 => none
  | room + 1 => read { ctx with room } text

/-- A reader whose value is changed by a partial function. -/
def mapped (f : α → Option β) (read : Reader α) : Reader β := fun ctx text => do
  let (value, rest) ← read ctx text
  return (← f value, rest)

/-- The entries up to a closing bracket; `separated` tells whether one may begin here. -/
def entries (close : Char) (entry : Reader α) (ctx : Context) :
    Nat → Bool → List Char → Option (List α × List Char)
  | 0, _, _ => none
  | fuel + 1, separated, text => do
    let text ← skipBlank text
    if text.head? = some close then return ([], text)
    else do
      guard separated
      let (first, text) ← deeper entry ctx text
      let (separated, text) ← comma text
      let (others, text) ← entries close entry ctx fuel separated text
      return (first :: others, text)

/-- Exactly `count` entries before a closing bracket. -/
def countedEntries (close : Char) (entry : Reader α) (ctx : Context) :
    Nat → Bool → List Char → Option (List α × List Char)
  | 0, _, text => some ([], text)
  | count + 1, separated, text => do
    let text ← skipBlank text
    guard (separated && text.head? != some close)
    let (first, text) ← deeper entry ctx text
    let (separated, text) ← comma text
    let (others, text) ← countedEntries close entry ctx count separated text
    return (first :: others, text)

/-- A list in square brackets. -/
def list (entry : Reader α) : Reader (List α) := fun ctx text => do
  let text ← symbol '[' text
  let (items, text) ← deeper (fun ctx text => entries ']' entry ctx (text.length + 1) true text)
    ctx text
  return (items, ← symbol ']' (← skipBlank text))

/-- A value in round brackets, or without them where they are `bare`. -/
def bracketed (bare : Bool) (content : Reader α) : Reader α := fun ctx text => do
  let text ← if bare then some text else symbol '(' text
  let (value, text) ← deeper content ctx text
  let text ← skipBlank text
  let text ← if bare then some text else symbol ')' text
  return (value, text)

/-- A tuple of `count` values. -/
def tuple (count : Nat) (entry : Reader α) (bare : Bool) : Reader (List α) :=
  bracketed bare fun ctx text => countedEntries ')' entry ctx count true text

/-- The text after a record's name, which may be left out unless the style asks for it. -/
def recordName (name : String) (ctx : Context) (text : List Char) : Option (List Char) :=
  if text.head?.any Text.continuesIdentifier then do
    let (found, rest) ← identifier text
    if found = name then some rest else none
  else if ctx.style.namedRecords then none
  else some text

/-- The fields up to the closing bracket; `field` reads the value of a name into the state. -/
def fields (field : String → σ → Reader σ) (ctx : Context) :
    Nat → Bool → σ → List Char → Option (σ × List Char)
  | 0, _, _, _ => none
  | fuel + 1, separated, state, text => do
    let text ← skipBlank text
    if text.head? = some ')' then return (state, text)
    else do
      guard separated
      let (name, text) ← identifier text
      let text ← skipBlank (← symbol ':' (← skipBlank text))
      let (state, text) ← deeper (field name state) ctx text
      let (separated, text) ← comma text
      fields field ctx fuel separated state text

/-- A record, read field by field into a state. -/
def record (name : String) (field : String → σ → Reader σ) (start : σ) (bare : Bool) :
    Reader σ := fun ctx text => do
  let text ← if bare then some text else recordName name ctx text
  bracketed bare (fun ctx text => fields field ctx (text.length + 1) true start text) ctx
    (← skipBlank text)

/-- A field that may be given once; `put` stores its value. -/
def once (held : Option α) (read : Reader α) (put : α → σ) : Reader σ := fun ctx text => do
  guard held.isNone
  let (value, rest) ← read ctx text
  return (put value, rest)

/-- A wrapped value, with the wrapper's name if it is shown. -/
def wrapped (name : String) (content : Reader α) : Reader α := fun ctx text =>
  if ctx.style.bareWrappers then deeper content ctx text
  else do
    let text ← skipBlank (← recordName name ctx text)
    let text ← skipBlank (← symbol '(' text)
    let (value, text) ← deeper content ctx text
    let (_, text) ← comma text
    return (value, ← symbol ')' text)

/-- An option: the word for none, or a tagged value, whose content is read bare or in brackets. -/
def optional (content : Bool → Reader α) : Reader (Option α) := fun ctx text =>
  let untagged (text : List Char) : Option (Option α × List Char) := do
    guard ctx.style.implicitSome
    let (value, text) ← deeper (content false) ctx text
    return (some value, text)
  match word "None" text with
  | some rest => some (none, rest)
  | none =>
    match word "Some" text with
    | none => untagged text
    | some rest => do
      match ← skipBlank rest with
      | '(' :: rest =>
        let (value, rest) ← deeper (content ctx.style.bareContents) ctx (← skipBlank rest)
        let (_, rest) ← comma rest
        return (some value, ← symbol ')' rest)
      | rest => untagged rest

/-- A tagged value; `content` says for a tag how its content is read, bare or in brackets. The tag
counts as a level of its own. -/
def tagged (content : String → Option (Bool → Reader α)) : Reader α := fun ctx text => do
  let (tag, text) ← identifier text
  let read ← content tag
  let text ← skipBlank (← symbol '(' (← skipBlank text))
  let (value, text) ← deeper (deeper (read ctx.style.bareContents)) ctx text
  let (_, text) ← comma text
  return (value, ← symbol ')' text)

/-- A name that stands for a value. -/
def named (value : String → Option α) : Reader α := fun _ text => do
  let (name, rest) ← identifier text
  return (← value name, rest)

/-- A Boolean. -/
def bool : Reader Bool := fun _ text =>
  match word "true" text with
  | some rest => some (true, rest)
  | none => (word "false" text).map fun rest => (false, rest)

/-- A natural number below `2 ^ width`. -/
def nat (width : Nat) : Reader Nat := fun _ text => do
  let (value, rest) ← integer (.unsigned width) text
  return (value.toNat, rest)

/-- A signed 32-bit integer. -/
def int32 : Reader Int32 := fun _ text => do
  let (value, rest) ← integer (.signed 32) text
  return (Int32.ofInt value, rest)

/-- A single precision number. -/
def number : Reader Binary32 := fun _ text => float text

/-- Quoted text. -/
def text : Reader String := fun _ rest => string rest

end ShaderGraph.Notation
