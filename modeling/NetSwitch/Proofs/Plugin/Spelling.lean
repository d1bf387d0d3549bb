import NetSwitch.Plugin.Report
import NetSwitch.Proofs.Json.Flawed
import NetSwitch.Proofs.Json.Writer

/-! Reports are read whatever their spelling is. -/

namespace NetSwitch

namespace Json

/-- A type is read from the texts that spell a value, with blanks around them, and from no others.
Where only the members of an object keep a text from spelling a value, it is refused as one that is
not asked for. -/
structure Versatile (α : Type) [Wire α] : Prop where
  spelled (input : Bytes) (a : α) : decode input = .ok a ↔ ∃ lead text trail, Blank lead ∧ Blank trail ∧
    (Wire.shape α).Spells (Wire.toValue a) text ∧ input = lead ++ (text ++ trail)
  flawed (lead text trail : Bytes) (before : Blank lead) (after : Blank trail) :
    (Wire.shape α).Flawed text → decode (α := α) (lead ++ (text ++ trail)) = .error .unsuitable

theorem versatile_of_legible {α : Type} [Wire α] (legible : (Wire.shape α).isLegible = true) : Versatile α where
  spelled _ _ := decode_iff legible
  flawed _ _ _ before after flawed := decode_flawed legible flawed before after

end Json

namespace Plugin

open Json (Entry Shape Versatile Wire objectText)

/-- The members of a report may come in any order and among any others, those that are absent may be
null, and all of them may be the items of an array; the same holds of what is within.  A report with a
member twice, or without one that must be there, is refused. -/
theorem reports_versatile :
    Versatile Interface ∧ Versatile Address ∧ Versatile AddReport ∧ Versatile VersionReport ∧
      Versatile ErrorReport :=
  ⟨Json.versatile_of_legible rfl, Json.versatile_of_legible rfl, Json.versatile_of_legible rfl,
    Json.versatile_of_legible rfl, Json.versatile_of_legible rfl⟩

/-- The members of an interface that has its name twice. -/
def twiceNamed : List Entry :=
  [.written "name" (Json.writeText "lo"), .written "name" (Json.writeText "lo")]

theorem reports_versatile_repeated :
    (Wire.shape Interface).Flawed (objectText [] (twiceNamed.map Entry.field)) ∧
      Json.decode (α := Interface) (objectText [] (twiceNamed.map Entry.field)) = .error .unsuitable := by
  have name : Shape.text.Spells "lo" (Json.utf8 (Json.writeText "lo")) :=
    ⟨_, Json.utf8_writeText _, Json.spelled_inner _⟩
  have flawed : (Wire.shape Interface).Flawed (objectText [] (twiceNamed.map Entry.field)) := by
    refine .inr ⟨[], twiceNamed, nofun, rfl, ⟨?_, nofun, nofun⟩, .inl (Nat.le_refl 2)⟩
    exact List.forall_mem_cons.mpr ⟨.inl ⟨_, name⟩, List.forall_mem_singleton.mpr (.inl ⟨_, name⟩)⟩
  have refused := reports_versatile.1.flawed [] _ [] nofun nofun flawed
  rw [List.nil_append, List.append_nil] at refused
  exact ⟨flawed, refused⟩

end Plugin

end NetSwitch
