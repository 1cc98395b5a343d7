import ShaderGraph.Notation.Reader

/-!
# Skipping values

The value of an unknown field may be anything that is well formed in the notation; it is read over
and forgotten.
-/

set_option autoImplicit false

namespace ShaderGraph.Notation

/-- Whether a text begins with quoted text or bytes rather than an identifier. -/
def startsQuoted (text : List Char) : Bool :=
  ["b\"", "b'", "br#", "br\"", "r\"", "r#\"", "r##"].any fun start => (fixed start text).isSome

/-- Words for values without content. -/
def plainWords : List String :=
  ["true", "false", "None", "inf", "inff32", "inff64", "NaN", "NaNf32", "NaNf64"]

/-- The identifier at the front, if the text begins with one. -/
def leadingName (text : List Char) : Option (List Char) :=
  if startsQuoted text then none
  else match text with
    | 'r' :: '#' :: rest =>
      let (name, rest) := run continuesRaw rest
      if name.isEmpty then none else some rest
    | c :: rest =>
      if Text.startsIdentifier c then some (rest.dropWhile Text.continuesIdentifier) else none
    | [] => none

/-- What stands between round brackets. -/
inductive RoundContent
  | fields
  | items
  /-- One value, which is not a tuple of its own. -/
  | single

/-- The text after quoted text at its front, if it begins with any. -/
def overQuoted (text : List Char) : List Char :=
  let text := (skipChar .char text).getD text
  let text := ((string text).map Prod.snd).getD text
  (skipByteString text).getD text

/-- Whether a comma and something behind it come before the bracket that closes the text; `opened`
brackets are open inside it. -/
def hasMoreItems : Nat → Nat → List Char → Option Bool
  | 0, _, _ => none
  | fuel + 1, opened, text => do
    match overQuoted (← skipBlank text) with
    | [] => none
    | c :: rest =>
      if c = '(' ∨ c = '[' ∨ c = '\x7b' then hasMoreItems fuel (opened + 1) rest
      else if c = ')' ∨ c = ']' ∨ c = '\x7d' then
        match opened with
        | 0 => return false
        | opened + 1 => hasMoreItems fuel opened rest
      else if c = ',' && opened == 0 then return (← skipBlank rest).head? != some ')'
      else hasMoreItems fuel opened rest

/-- What a tuple or record holds, by the text behind its opening bracket: fields, if a name and a
colon come first. -/
def roundContent (text : List Char) : Option RoundContent := do
  match leadingName (← skipBlank text) with
  | none => return .items
  | some rest => return if (← skipBlank rest).head? = some ':' then .fields else .items

/-- What stands between the brackets of a tag, where its content may go without its own. -/
def bareContent (text : List Char) : Option RoundContent := do
  let counted (text : List Char) : Option RoundContent := do
    return if ← hasMoreItems (text.length + 1) 0 text then .items else .single
  let text ← skipBlank text
  if text.head? = some ')' then return .items
  else match leadingName text with
    | none => counted text
    | some rest =>
      match ← skipBlank rest with
      | ':' :: _ => return .fields
      | ')' :: _ => return .single
      | ',' :: rest => return if (← skipBlank rest).head? = some ')' then .single else .items
      | rest => counted rest

/-- Reads and forgets a value. -/
def forgotten {α : Type} (read : Reader α) : Reader Unit := mapped (fun _ => some ()) read

/-- Reads over a tuple or a record, in round brackets or bare; `inside` reads over its entries. -/
def skipRound (bare : Bool) (inside : Reader Unit) : RoundContent → Reader Unit
  | .fields => bracketed bare fun ctx text =>
    fields (fun _ (_ : Unit) => inside) ctx (text.length + 1) true () text
  | .items => forgotten (bracketed bare fun ctx text =>
    entries ')' inside ctx (text.length + 1) true text)
  | .single => inside

/-- Reads over the content of a tag. -/
def skipContent (inside : Reader Unit) (bare : Bool) : Reader Unit := fun ctx text =>
  if bare then do skipRound true inside (← bareContent text) ctx text
  else inside ctx text

/-- Reads over a pair of a map: a key, a colon and a value. -/
def skipPair (inside : Reader Unit) : Reader Unit := fun ctx text => do
  let (_, text) ← inside ctx text
  inside ctx (← skipBlank (← symbol ':' (← skipBlank text)))

/-- Reads over a map. -/
def skipMap (inside : Reader Unit) : Reader Unit := fun ctx text => do
  let (_, text) ← deeper
    (fun ctx text => entries '\x7d' (skipPair inside) ctx (text.length + 1) true text) ctx
    (← symbol '\x7b' text)
  return ((), ← symbol '\x7d' (← skipBlank text))

/-- Reads over a value; `inside` reads over the values in it. -/
def skipWith (inside : Reader Unit) : Reader Unit := fun ctx text =>
  let ended (rest : Option (List Char)) : Option (Unit × List Char) :=
    rest.map fun rest => ((), rest)
  let round (rest : List Char) : Option (Unit × List Char) := do
    skipRound false inside (← roundContent rest) ctx ('(' :: rest)
  match plainWords.findSome? fun w => word w text with
  | some rest => ended (some rest)
  | none =>
    if (word "Some" text).isSome then forgotten (optional (skipContent inside)) ctx text
    else match leadingName text with
      | some rest => do
        match ← skipBlank rest with
        | '(' :: rest => round rest
        | rest => ended (some rest)
      | none =>
        match text with
        | '(' :: ')' :: rest => ended (some rest)
        | '(' :: rest => round rest
        | '[' :: _ => forgotten (list inside) ctx text
        | '\x7b' :: _ => skipMap inside ctx text
        | '\'' :: _ => ended (skipChar .char text)
        | 'b' :: _ => ended (skipBytes text)
        | '"' :: _ | 'r' :: _ => ended ((string text).map Prod.snd)
        | _ => ended (skipNumber text)

/-- Reads over a value; `fuel` is more than the levels of nesting left. -/
def skipValue : Nat → Reader Unit
  | 0 => fun _ _ => none
  | fuel + 1 => skipWith (skipValue fuel)

/-- An unknown field, which leaves the state as it is. -/
def unknownField {σ : Type} (state : σ) : Reader σ := fun ctx text =>
  mapped (fun () => some state) (skipValue (ctx.room + 1)) ctx text

end ShaderGraph.Notation
