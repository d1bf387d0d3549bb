import NetSwitch.Json.Text

/-! Shapes of JSON values, and the values that have a shape.

A shape says what a reader asks for.  A record is given by its members in
order; a member whose shape is an option may be absent.
-/

namespace NetSwitch.Json

mutual

/-- What a value must look like. -/
inductive Shape where
  | text
  /-- A natural number below a bound. -/
  | natural (bound : Nat)
  /-- One of some names. -/
  | choice (names : List String)
  | option (shape : Shape)
  | list (item : Shape)
  | record (members : Members)

/-- The members of a record, in order. -/
inductive Members where
  | nil
  | cons (name : String) (shape : Shape) (rest : Members)

end

mutual

@[reducible] def Shape.Value : Shape → Type
  | .text => String
  | .natural bound => Fin bound
  | .choice names => Fin names.length
  | .option shape => Option shape.Value
  | .list item => List item.Value
  | .record members => members.Value

/-- The values of a record: one for each member. -/
@[reducible] def Members.Value : Members → Type
  | .nil => Unit
  | .cons _ shape rest => shape.Value × rest.Value

end

/-- What a reader of a record has found so far: a value or nothing for each member. -/
@[reducible] def Members.Draft : Members → Type
  | .nil => Unit
  | .cons _ shape rest => Option shape.Value × rest.Draft

def Members.blank : (members : Members) → members.Draft
  | .nil => ()
  | .cons _ _ rest => (none, rest.blank)

/-- The value of a member that is absent, for the shapes that have one. -/
def Shape.absent? : (shape : Shape) → Option shape.Value
  | .option _ => some none
  | _ => none

def Shape.isAbsent : (shape : Shape) → shape.Value → Bool
  | .option _, none => true
  | _, _ => false

/-- The record that a finished draft stands for, unless a member is missing. -/
def Members.build? : (members : Members) → members.Draft → Option members.Value
  | .nil, () => some ()
  | .cons _ shape rest, (found, others) => do
      let value ← found.or shape.absent?
      let values ← rest.build? others
      some (value, values)

end NetSwitch.Json
