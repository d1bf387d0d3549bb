import NetSwitch.Text.Visible

/-! Quoted text: a form that shows every character of a text, whatever it is.

Double quotes enclose it; a quote and a backslash are escaped by a backslash,
the usual control characters by their letter, and every other character that
does not show by itself by its number.  A single quote stands for itself.
-/

namespace NetSwitch.Text

def hex (n : Nat) : String :=
  String.ofList (Nat.toDigits 16 n)

def hexByte (b : UInt8) : String :=
  String.ofList [(Nat.digitChar (b.toNat / 16)).toUpper, (Nat.digitChar (b.toNat % 16)).toUpper]

def quoteChar (c : Char) : String :=
  if c = '\x00' then "\\0"
  else if c = '\t' then "\\t"
  else if c = '\r' then "\\r"
  else if c = '\n' then "\\n"
  else if c = '"' then "\\\""
  else if c = '\\' then "\\\\"
  else if isVisible c then String.singleton c
  else "\\u\x7b" ++ hex c.toNat ++ "\x7d"

/-- How a piece of a byte sequence stands within quotes: bytes that spell no
character are shown by their value. -/
def quotePiece : Piece → String
  | .char c => quoteChar c
  | .invalid bytes => String.join (bytes.map fun b => "\\x" ++ hexByte b)

def quote (text : String) : String :=
  "\"" ++ String.join (text.toList.map quoteChar) ++ "\""

def quoteBytes (bytes : Bytes) : String :=
  "\"" ++ String.join ((pieces bytes).map quotePiece) ++ "\""

end NetSwitch.Text
