import ShaderGraph.Text.Invisible

/-!
# Quoted text

Two ways to write text between double quotes. The debug form escapes the double quote, the
backslash and every character that is not shown, and in documents the single quote too; the
transfer form escapes only what its grammar demands, the double quote, the backslash and the
controls below the space.
-/

set_option autoImplicit false

namespace ShaderGraph.Text

/-- Lower-case hexadecimal digits without leading zeros. -/
def hex (n : Nat) : String := String.ofList (Nat.toDigits 16 n)

/-- One character of the debug form; a single quote is escaped if `single` says so. -/
def escapeDebug (single : Bool) (c : Char) : String :=
  match c with
  | '\x00' => "\\0"
  | '\t' => "\\t"
  | '\n' => "\\n"
  | '\r' => "\\r"
  | '\'' => if single then "\\'" else "'"
  | '"' => "\\\""
  | '\\' => "\\\\"
  | c => if isInvisible c then "\\u\x7b" ++ hex c.toNat ++ "\x7d" else String.singleton c

/-- Text in debug form, with its quotes. -/
def quoteDebug (single : Bool) (s : String) : String :=
  "\"" ++ String.join (s.toList.map (escapeDebug single)) ++ "\""

/-- One character of the transfer form. -/
def escapeTransfer (c : Char) : String :=
  match c with
  | '"' => "\\\""
  | '\\' => "\\\\"
  | '\x08' => "\\b"
  | '\t' => "\\t"
  | '\n' => "\\n"
  | '\x0c' => "\\f"
  | '\r' => "\\r"
  | c =>
    if c.toNat < 0x10 then "\\u000" ++ hex c.toNat
    else if c.toNat < 0x20 then "\\u00" ++ hex c.toNat
    else String.singleton c

/-- Text in transfer form, with its quotes. -/
def quoteTransfer (s : String) : String :=
  "\"" ++ String.join (s.toList.map escapeTransfer) ++ "\""

end ShaderGraph.Text
