import NetSwitch.Plugin.Report
import NetSwitch.Proofs.Json.Writer

/-! Reports survive their text: what is read back is what was written. -/

namespace NetSwitch

namespace Json

/-- Every value of a type is read back from its text, with blanks around it or without. -/
def Survives (α : Type) [Wire α] : Prop :=
  ∀ a : α, decode (Bytes.ofString (encode a)) = .ok a ∧
    ∀ lead trail, Blank lead → Blank trail →
      decode (lead ++ (Bytes.ofString (encode a) ++ trail)) = .ok a

variable {α : Type} [Wire α]

theorem survives_of_legible (legible : (Wire.shape α).isLegible = true) : Survives α := by
  intro a
  have surrounded {lead trail : Bytes} (before : Blank lead) (after : Blank trail) :
      decode (lead ++ (Bytes.ofString (encode a) ++ trail)) = .ok a := by
    rw [ofString_encode]
    exact decode_spelled legible ((Wire.shape α).write_spells legible (Wire.toValue a)) before after
  refine ⟨?_, fun lead trail => surrounded⟩
  simpa only [List.nil_append, List.append_nil] using
    surrounded (List.forall_mem_nil _) (List.forall_mem_nil _)

end Json

namespace Plugin

/-- Whatever strings, lists, numbers and absent members a report has, it is read back as it was,
and so are the identities and the link states that are exchanged. -/
theorem reports_survive :
    Json.Survives Interface ∧ Json.Survives Address ∧ Json.Survives AddReport ∧
      Json.Survives VersionReport ∧ Json.Survives ErrorReport ∧ Json.Survives NamespaceId ∧
      Json.Survives LinkState :=
  ⟨Json.survives_of_legible rfl, Json.survives_of_legible rfl, Json.survives_of_legible rfl,
    Json.survives_of_legible rfl, Json.survives_of_legible rfl, Json.survives_of_legible rfl,
    Json.survives_of_legible rfl⟩

end Plugin

end NetSwitch
