import NetSwitch.Plugin.Report
import NetSwitch.Proofs.Json.Cut

/-! Reports that are cut off are not taken for reports. -/

namespace NetSwitch.Plugin

open Json (Breaks Broken)

variable {limit : Option Nat} {text : String} {written : Bytes}

/-- An output that fails has taken a part of the text and not all of it. -/
theorem deliver_error (fails : deliver limit text = .error written) :
    ∃ more, Bytes.ofString text = written ++ more ∧ more ≠ [] := by
  cases limit with
  | none => cases fails
  | some limit =>
      simp only [deliver] at fails
      split at fails
      case isTrue => cases fails
      case isFalse exceeds =>
        cases fails
        refine ⟨(Bytes.ofString text).drop limit, (List.take_append_drop _ _).symm, fun nothing => exceeds ?_⟩
        exact List.drop_eq_nil_iff.mp nothing

theorem broken_of_deliver {α : Type} [Json.Wire α] {a : α} (breaks : Breaks α)
    (fails : deliver limit (Json.encode a) = .error written) : Broken α written := by
  obtain ⟨more, whole, cut⟩ := deliver_error fails
  exact breaks a written more whole cut

/-- Whatever a report says, its text is no report if the end is missing, were it only the last byte.
So what is left by an output that fails is never taken for a result. -/
theorem cuts_refused :
    (Breaks Interface ∧ Breaks Address ∧ Breaks AddReport ∧ Breaks VersionReport ∧ Breaks ErrorReport) ∧
    ∀ (limit : Option Nat) (written : Bytes),
      (∀ result, deliver limit (Reply.add result).text = .error written → Broken AddReport written) ∧
      (∀ result, deliver limit (Reply.version result).text = .error written → Broken VersionReport written) ∧
      ∀ report : ErrorReport, deliver limit (Json.encode report) = .error written →
        Broken ErrorReport written := by
  have breaksAdd : Breaks AddReport := Json.breaks_of_record rfl rfl
  have breaksVersion : Breaks VersionReport := Json.breaks_of_record rfl rfl
  have breaksError : Breaks ErrorReport := Json.breaks_of_record rfl rfl
  refine ⟨⟨Json.breaks_of_record rfl rfl, Json.breaks_of_record rfl rfl, breaksAdd, breaksVersion,
    breaksError⟩, ?_⟩
  intro limit written
  refine ⟨fun result fails => ?_, fun result fails => ?_, fun report fails => ?_⟩
  · exact broken_of_deliver breaksAdd fails
  · exact broken_of_deliver breaksVersion fails
  · exact broken_of_deliver breaksError fails

theorem cuts_refused_early :
    deliver (some 5) (Reply.version ⟨"1.0.0", []⟩).text = .error [0x7B, 0x22, 0x63, 0x6E, 0x69] ∧
      Broken VersionReport [0x7B, 0x22, 0x63, 0x6E, 0x69] := by
  have fails : deliver (some 5) (Reply.version ⟨"1.0.0", []⟩).text =
      .error [0x7B, 0x22, 0x63, 0x6E, 0x69] := rfl
  exact ⟨fails, (cuts_refused.2 _ _).2.1 _ fails⟩

end NetSwitch.Plugin
