import NetSwitch.Json.Text

/-! Values that are not kept.

`skipValue` finds the end of a value of any kind, size and depth.  It goes
through the bytes one by one with a stack of the brackets that are open, so
that depth costs no more than length does.
-/

namespace NetSwitch.Json

/-- A bracket that is open. -/
inductive Bracket where
  | array
  | object
deriving DecidableEq, Repr

/-- Where a reader stands within a value that it skips. -/
inductive Site where
  /-- A value must start here. -/
  | value
  /-- After an opening bracket: a value or the end. -/
  | firstItem
  /-- After an opening brace: a key or the end. -/
  | firstKey
  /-- After a comma between members. -/
  | key
  | colon
  /-- After a value, within the innermost bracket. -/
  | after
  /-- Within a string, which may be a key. -/
  | text (isKey : Bool)
  | escape (isKey : Bool)
  | digits (isKey : Bool) (missing : Nat) (good : Bool)
  /-- Within a word: what is left of it. -/
  | word (rest : Bytes)
  /-- After the sign of a number. -/
  | sign
  /-- After the zero that is all of a whole part. -/
  | zero
  | whole
  | point
  | fraction
  | exponentMark
  | exponentSign
  | exponent
deriving DecidableEq, Repr

/-- What a byte means to a reader that skips a value. -/
inductive Move where
  | go (site : Site) (stack : List Bracket)
  /-- The value ends with this byte. -/
  | done
  /-- The value ended before this byte. -/
  | doneBefore
  | fail
deriving DecidableEq, Repr

def complete : List Bracket → Move
  | [] => .done
  | stack => .go .after stack

def afterValue (stack : List Bracket) (b : UInt8) : Move :=
  match stack with
  | [] => .doneBefore
  | .array :: outer =>
      if isBlank b then .go .after stack
      else if b = comma then .go .value stack
      else if b = closeBracket then complete outer
      else .fail
  | .object :: outer =>
      if isBlank b then .go .after stack
      else if b = comma then .go .key stack
      else if b = closeBrace then complete outer
      else .fail

def startValue (stack : List Bracket) (b : UInt8) : Move :=
  if isBlank b then .go .value stack
  else if b = quoteMark then .go (.text false) stack
  else if b = openBracket then .go .firstItem (.array :: stack)
  else if b = openBrace then .go .firstKey (.object :: stack)
  else if b = minus then .go .sign stack
  else if b = 0x30 then .go .zero stack
  else if isDigit b then .go .whole stack
  else match wordAfter? b with
    | some rest => .go (.word rest) stack
    | none => .fail

def afterWhole (stack : List Bracket) (b : UInt8) : Move :=
  if b = Json.point then .go .point stack
  else if isExponentMark b then .go .exponentMark stack
  else afterValue stack b

/-- What a byte means at a site, with the brackets that are open around it. -/
def Site.move (site : Site) (stack : List Bracket) (b : UInt8) : Move :=
  match site with
  | .value => startValue stack b
  | .firstItem =>
      if isBlank b then .go .firstItem stack
      else if b = closeBracket then complete stack.tail
      else startValue stack b
  | .firstKey =>
      if isBlank b then .go .firstKey stack
      else if b = closeBrace then complete stack.tail
      else if b = quoteMark then .go (.text true) stack
      else .fail
  | .key =>
      if isBlank b then .go .key stack
      else if b = quoteMark then .go (.text true) stack
      else .fail
  | .colon =>
      if isBlank b then .go .colon stack
      else if b = Json.colon then .go .value stack
      else .fail
  | .after => afterValue stack b
  | .text isKey =>
      if b = quoteMark then (if isKey then .go .colon stack else complete stack)
      else if b = backslash then .go (.escape isKey) stack
      else if b < 0x20 then .fail
      else .go (.text isKey) stack
  | .escape isKey =>
      if b = 0x75 then .go (.digits isKey 4 true) stack
      else if (escaped? b).isSome then .go (.text isKey) stack
      else .fail
  | .digits isKey missing good =>
      let good := good && (hexDigit? b).isSome
      if missing = 1 then (if good then .go (.text isKey) stack else .fail)
      else .go (.digits isKey (missing - 1) good) stack
  | .word [] => .fail
  | .word [last] => if b = last then complete stack else .fail
  | .word (next :: rest) => if b = next then .go (.word rest) stack else .fail
  | .sign =>
      if b = 0x30 then .go .zero stack
      else if isDigit b then .go .whole stack
      else .fail
  | .zero => if isDigit b then .fail else afterWhole stack b
  | .whole => if isDigit b then .go .whole stack else afterWhole stack b
  | .point => if isDigit b then .go .fraction stack else .fail
  | .fraction =>
      if isDigit b then .go .fraction stack
      else if isExponentMark b then .go .exponentMark stack
      else afterValue stack b
  | .exponentMark =>
      if isDigit b then .go .exponent stack
      else if b = plus ∨ b = minus then .go .exponentSign stack
      else .fail
  | .exponentSign => if isDigit b then .go .exponent stack else .fail
  | .exponent => if isDigit b then .go .exponent stack else afterValue stack b

/-- The end of the input: a number that stands alone ends with it, and one that
lacks a digit is malformed rather than cut off. -/
def Site.atEnd (site : Site) (stack : List Bracket) : Read Bytes :=
  match site with
  | .zero | .whole | .fraction | .exponent =>
      if stack.isEmpty then .ok [] else .error .truncated
  | .sign | .point | .exponentMark | .exponentSign => .error .malformed
  | _ => .error .truncated

/-- Goes on from a site within a value to the bytes after the value. -/
def skipFrom : Site → List Bracket → Bytes → Read Bytes
  | site, stack, [] => site.atEnd stack
  | site, stack, b :: rest =>
      match site.move stack b with
      | .go next brackets => skipFrom next brackets rest
      | .done => .ok rest
      | .doneBefore => .ok (b :: rest)
      | .fail => .error .malformed

/-- Skips a value: the bytes after it. -/
def skipValue (input : Bytes) : Read Bytes :=
  skipFrom .value [] input

end NetSwitch.Json
