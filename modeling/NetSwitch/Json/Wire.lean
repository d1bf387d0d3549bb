import NetSwitch.Json.Reader
import NetSwitch.Json.Writer

/-! Types with a JSON form. -/

namespace NetSwitch.Json

/-- A type whose values are those of a shape under other names. -/
class Wire (α : Type) where
  shape : Shape
  toValue : α → shape.Value
  ofValue : shape.Value → α
  ofValue_toValue : ∀ a, ofValue (toValue a) = a
  toValue_ofValue : ∀ v, toValue (ofValue v) = v

def encode [Wire α] (a : α) : String :=
  String.ofList ((Wire.shape α).write (Wire.toValue a))

def decode [Wire α] (input : Bytes) : Read α :=
  ((Wire.shape α).parse input).map Wire.ofValue

end NetSwitch.Json
