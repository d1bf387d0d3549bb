/-! Byte sequences, and the characters that UTF-8 finds in them.

`pieces` splits any sequence of bytes into the characters it spells and the
runs of bytes that spell none.  A run is as long as it can be while still
being the beginning of some character, or a single byte if it cannot begin
one.  The strict and the lenient reading of bytes as text are both views of
`pieces`.
-/

namespace NetSwitch

/-- A sequence of bytes: a path, standard input, an argument. -/
abbrev Bytes := List UInt8

namespace Bytes

def ofString (text : String) : Bytes :=
  text.toList.flatMap String.utf8EncodeChar

end Bytes

namespace Text

/-- What a stretch of bytes spells. -/
inductive Piece where
  | char (c : Char)
  | invalid (bytes : Bytes)
deriving DecidableEq, Repr

/-- A character whose first bytes have been read: what has been seen of it, the
bounds for its next byte, how many bytes it needs after that one, and the value
collected so far. -/
structure Unfinished where
  seen : Bytes
  low : UInt8
  high : UInt8
  owed : Nat
  value : Nat
deriving DecidableEq, Repr

/-- Reads the first byte of a character.  The bounds of the second byte keep out
long spellings, surrogates, and values above the last character. -/
def begin (b : UInt8) : List Piece × Option Unfinished :=
  if b ≤ 0x7F then ([.char (Char.ofNat b.toNat)], none)
  else if b < 0xC2 then ([.invalid [b]], none)
  else if b ≤ 0xDF then ([], some ⟨[b], 0x80, 0xBF, 0, b.toNat - 0xC0⟩)
  else if b ≤ 0xEF then
    ([], some ⟨[b], if b = 0xE0 then 0xA0 else 0x80, if b = 0xED then 0x9F else 0xBF, 1,
      b.toNat - 0xE0⟩)
  else if b ≤ 0xF4 then
    ([], some ⟨[b], if b = 0xF0 then 0x90 else 0x80, if b = 0xF4 then 0x8F else 0xBF, 2,
      b.toNat - 0xF0⟩)
  else ([.invalid [b]], none)

namespace Unfinished

def extend (u : Unfinished) (b : UInt8) : List Piece × Option Unfinished :=
  let value := u.value * 64 + (b.toNat - 0x80)
  match u.owed with
  | 0 => ([.char (Char.ofNat value)], none)
  | owed + 1 => ([], some ⟨u.seen ++ [b], 0x80, 0xBF, owed, value⟩)

end Unfinished

/-- Reads one more byte: the pieces that it completes, and the character that it
leaves unfinished. -/
def advance (unfinished : Option Unfinished) (b : UInt8) : List Piece × Option Unfinished :=
  match unfinished with
  | none => begin b
  | some u =>
      if u.low ≤ b ∧ b ≤ u.high then u.extend b
      else (.invalid u.seen :: (begin b).1, (begin b).2)

def piecesAfter : Option Unfinished → Bytes → List Piece
  | none, [] => []
  | some u, [] => [.invalid u.seen]
  | unfinished, b :: rest =>
      (advance unfinished b).1 ++ piecesAfter (advance unfinished b).2 rest

/-- The characters that `bytes` spells, and the stretches that spell none. -/
def pieces (bytes : Bytes) : List Piece :=
  piecesAfter none bytes

def Piece.char? : Piece → Option Char
  | .char c => some c
  | .invalid _ => none

/-- The character shown for a piece: a stretch that spells none shows as one
replacement character. -/
def Piece.shown : Piece → Char
  | .char c => c
  | .invalid _ => '\uFFFD'

end Text

namespace Bytes

/-- The text that `bytes` spell, if all of them are part of a character. -/
def toString? (bytes : Bytes) : Option String :=
  ((Text.pieces bytes).mapM Text.Piece.char?).map String.ofList

def display (bytes : Bytes) : String :=
  String.ofList ((Text.pieces bytes).map Text.Piece.shown)

end Bytes

end NetSwitch
