import NetSwitch.Json.Shape

/-! Writing the values of a shape.

The written form has no blanks, keeps the members of a record in order, and
leaves out those that are absent.
-/

namespace NetSwitch.Json

def separate (items : List (List Char)) : List Char :=
  [','].intercalate items

mutual

def Shape.write : (shape : Shape) → shape.Value → List Char
  | .text, text => writeText text
  | .natural _, n => Nat.toDigits 10 n.val
  | .choice names, choice => writeText (names.get choice)
  | .option _, none => ['n', 'u', 'l', 'l']
  | .option shape, some value => shape.write value
  | .list item, items => '[' :: separate (items.map item.write) ++ [']']
  | .record members, values => '\x7b' :: separate (members.write values) ++ ['\x7d']

/-- The written members of a record, those that are absent left out. -/
def Members.write : (members : Members) → members.Value → List (List Char)
  | .nil, () => []
  | .cons name shape rest, (value, values) =>
      if shape.isAbsent value then rest.write values
      else (writeText name ++ ':' :: shape.write value) :: rest.write values

end

end NetSwitch.Json
