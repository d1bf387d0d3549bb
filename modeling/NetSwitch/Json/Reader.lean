import NetSwitch.Json.Number
import NetSwitch.Json.Shape
import NetSwitch.Json.Skip

/-! Reading the values of a shape.

A record is read from an object or from an array of all its members in order.
In an object the members may come in any order, none twice, and members that
are not asked for are skipped.  The first thing that is wrong decides the
error.
-/

namespace NetSwitch.Json

/-- Why the value in front, which is none of the kind asked for, cannot be read.
A word, a number or a string is looked at to its end first. -/
def refuse (input : Bytes) : ReadError :=
  match skipBlanks input with
  | [] => .truncated
  | b :: rest =>
      let looked : Read Unit :=
        if b = quoteMark then (readText rest).map fun _ => ()
        else if b = minus ∨ isDigit b then (readNumber (b :: rest)).map fun _ => ()
        else if b = openBracket ∨ b = openBrace then .ok ()
        else match wordAfter? b with
          | some word => (expectWord word rest).map fun _ => ()
          | none => .error .malformed
      match looked with
      | .ok () => .unsuitable
      | .error e => e

def readString (input : Bytes) : Read (String × Bytes) :=
  match skipBlanks input with
  | [] => .error .truncated
  | b :: rest => if b = quoteMark then readText rest else .error (refuse (b :: rest))

def readNatural (bound : Nat) (input : Bytes) : Read (Fin bound × Bytes) :=
  match skipBlanks input with
  | [] => .error .truncated
  | b :: rest =>
      if b = minus ∨ isDigit b then do
        let (value, rest) ← readNumber (b :: rest)
        match value with
        | some n => if below : n < bound then .ok (⟨n, below⟩, rest) else .error .unsuitable
        | none => .error .unsuitable
      else .error (refuse (b :: rest))

def pick (names : List String) (name : String) : Read (Fin names.length) :=
  match names.finIdxOf? name with
  | some i => .ok i
  | none => .error .unsuitable

def readNull (input : Bytes) : Read Bytes :=
  match skipBlanks input with
  | [] => .error .truncated
  | b :: rest =>
      if b = 0x6E then expectWord [0x75, 0x6C, 0x6C] rest else .error (refuse (b :: rest))

/-- Reads one of some names: a string, or an object whose only key is the name
and whose value is null. -/
def readChoice (names : List String) (input : Bytes) : Read (Fin names.length × Bytes) :=
  match skipBlanks input with
  | [] => .error .truncated
  | b :: rest =>
      if b = quoteMark then do
        let (name, rest) ← readText rest
        let choice ← pick names name
        .ok (choice, rest)
      else if b = openBrace then do
        let (name, rest) ← readString rest
        let choice ← pick names name
        let rest ← expectByte colon rest
        let rest ← readNull rest
        let rest ← expectByte closeBrace rest
        .ok (choice, rest)
      else .error .malformed

/-- Finds the next item of an array: the bytes from it on, or nothing at the end
of the array. -/
def nextItem (isFirst : Bool) (input : Bytes) : Read (Option Bytes) :=
  match skipBlanks input with
  | [] => .error .truncated
  | b :: rest =>
      if b = closeBracket then .ok none
      else if isFirst then .ok (some (b :: rest))
      else if b = comma then
        match skipBlanks rest with
        | [] => .error .truncated
        | c :: rest => if c = closeBracket then .error .malformed else .ok (some (c :: rest))
      else .error .malformed

/-- Reads the items of an array up to its closing bracket.  Each round takes at
least one byte, so a list that is longer than the input counts enough rounds. -/
def readItems (readItem : Bytes → Read (α × Bytes)) :
    Bytes → Bool → Bytes → Read (List α × Bytes)
  | [], _, _ => .error .truncated
  | _ :: rounds, isFirst, input => do
      match ← nextItem isFirst input with
      | none =>
          let rest ← expectByte closeBracket input
          .ok ([], rest)
      | some input =>
          let (item, rest) ← readItem input
          let (items, rest) ← readItems readItem rounds false rest
          .ok (item :: items, rest)

/-- Finds the next key of an object: the key and the bytes after it, or nothing
and the bytes after the object. -/
def nextKey (isFirst : Bool) (input : Bytes) : Read (Option String × Bytes) :=
  match skipBlanks input with
  | [] => .error .truncated
  | b :: rest =>
      if b = closeBrace then .ok (none, rest)
      else if isFirst then
        if b = quoteMark then (readText rest).map fun (key, rest) => (some key, rest)
        else .error .malformed
      else if b = comma then
        match skipBlanks rest with
        | [] => .error .truncated
        | c :: rest =>
            if c = quoteMark then (readText rest).map fun (key, rest) => (some key, rest)
            else .error .malformed
      else .error .malformed

/-- Reads the members of an object up to its closing brace into a draft.  Rounds
are counted as for the items of an array. -/
def readMembers (readMember : String → δ → Bytes → Read (δ × Bytes)) :
    Bytes → Bool → δ → Bytes → Read (δ × Bytes)
  | [], _, _, _ => .error .truncated
  | _ :: rounds, isFirst, draft, input => do
      match ← nextKey isFirst input with
      | (none, rest) => .ok (draft, rest)
      | (some key, rest) =>
          let (draft, rest) ← readMember key draft rest
          readMembers readMember rounds false draft rest

mutual

def Shape.read : (shape : Shape) → Bytes → Read (shape.Value × Bytes)
  | .text, input => readString input
  | .natural bound, input => readNatural bound input
  | .choice names, input => readChoice names input
  | .option shape, input =>
      match skipBlanks input with
      | b :: rest =>
          if b = 0x6E then do
            let rest ← expectWord [0x75, 0x6C, 0x6C] rest
            .ok (none, rest)
          else do
            let (value, rest) ← shape.read (b :: rest)
            .ok (some value, rest)
      | [] => .error .truncated
  | .list item, input =>
      match skipBlanks input with
      | [] => .error .truncated
      | b :: rest =>
          if b = openBracket then readItems item.read input true rest
          else .error (refuse (b :: rest))
  | .record members, input =>
      match skipBlanks input with
      | [] => .error .truncated
      | b :: rest =>
          if b = openBracket then do
            let (values, rest) ← members.readInOrder true rest
            let rest ← expectByte closeBracket rest
            .ok (values, rest)
          else if b = openBrace then do
            let (draft, rest) ←
              readMembers members.readMember input true members.blank rest
            match members.build? draft with
            | some values => .ok (values, rest)
            | none => .error .unsuitable
          else .error (refuse (b :: rest))

/-- Reads the value of the member with a key into a draft.  A member that has
been found before is refused as soon as its key is met; one that is not asked
for is skipped. -/
def Members.readMember : (members : Members) → String → members.Draft → Bytes →
    Read (members.Draft × Bytes)
  | .nil, _, (), input => do
      let rest ← expectByte colon input
      let rest ← skipValue rest
      .ok ((), rest)
  | .cons name shape rest, key, (found, others), input =>
      if key = name then
        if found.isSome then .error .unsuitable
        else do
          let after ← expectByte colon input
          let (value, after) ← shape.read after
          .ok ((some value, others), after)
      else do
        let (others, after) ← rest.readMember key others input
        .ok ((found, others), after)

/-- Reads the members of a record in order from the items of an array. -/
def Members.readInOrder : (members : Members) → Bool → Bytes → Read (members.Value × Bytes)
  | .nil, _, input => .ok ((), input)
  | .cons _ shape rest, isFirst, input => do
      match ← nextItem isFirst input with
      | none => .error .unsuitable
      | some input =>
          let (value, after) ← shape.read input
          let (values, after) ← rest.readInOrder false after
          .ok ((value, values), after)

end

/-- Reads a text that holds one value of a shape, and blanks around it. -/
def Shape.parse (shape : Shape) (input : Bytes) : Read shape.Value := do
  let (value, rest) ← shape.read input
  if (skipBlanks rest).isEmpty then .ok value else .error .malformed

end NetSwitch.Json
