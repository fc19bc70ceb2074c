import Mathlib.Data.List.TakeWhile
import SheetAudit.Field
import SheetAudit.Proofs.Outcome

/-!
# Where fields point

An address that is read from a text has a row and a column from 0 on, so the rectangle of a cell or
a range lies inside the sheet's quadrant.
-/

namespace SheetAudit

open Text Outcome

/-! ## Column letters -/

theorem letterValue_pos {c : Char} (hupper : c.isUpper = true) : 1 ≤ letterValue c := by
  have hcapital : 65 ≤ c.val ∧ c.val ≤ 90 := of_decide_eq_true hupper
  have hcode : 65 ≤ c.toNat := hcapital.1
  unfold letterValue
  omega

theorem le_foldl_letterValue {cs : List Char} (hupper : ∀ c ∈ cs, c.isUpper = true)
    {seen : Int} (hseen : 0 ≤ seen) :
    seen ≤ cs.foldl (fun total c => total * 26 + letterValue c) seen := by
  induction cs generalizing seen with
  | nil => exact le_refl seen
  | cons c cs ih =>
      have hletter := letterValue_pos (hupper c (by simp))
      have hgrown : seen ≤ seen * 26 + letterValue c := by omega
      exact hgrown.trans (ih (fun c' hc' => hupper c' (by simp [hc'])) (hseen.trans hgrown))

/-- Capital letters denote a number from 1 on. -/
theorem lettersValue_pos {cs : List Char} (hcs : cs ≠ []) (hupper : ∀ c ∈ cs, c.isUpper = true) :
    1 ≤ lettersValue cs := by
  obtain ⟨c, cs, rfl⟩ := List.exists_cons_of_ne_nil hcs
  have hletter := letterValue_pos (hupper c (by simp))
  have hfirst : 1 ≤ 0 * 26 + letterValue c := by omega
  exact hfirst.trans
    (le_foldl_letterValue (fun c' hc' => hupper c' (by simp [hc'])) (by omega))

/-! ## Addresses and fields from texts -/

/-- An address lies in the quadrant of a sheet. -/
def Address.InQuadrant (address : Address) : Prop := 0 ≤ address.row ∧ 0 ≤ address.col

theorem Address.inQuadrant_of_ofText {s : String} {address : Address}
    (hread : Address.ofText s = .ok (some address)) : address.InQuadrant := by
  unfold Address.ofText at hread
  simp only [pure_eq_ok, throw_eq_error] at hread
  split at hread
  · cases hread
  · next hparts =>
    split at hread
    · cases hread
    · split at hread
      · cases hread
      · next hrow =>
        cases hread
        simp only [Bool.or_eq_true, not_or, List.isEmpty_iff] at hparts
        have hletters := lettersValue_pos hparts.1.1
          fun c hc => List.mem_takeWhile_imp hc
        constructor
        · simp only
          omega
        · simp only
          omega

/-- The rectangle of a field that is read from a text starts in the quadrant of a sheet. -/
theorem Field.inQuadrant_of_ofText {s : String} {field : Field} {area : Rectangle}
    (hread : Field.ofText s = .ok field) (harea : field.rectangle? = some area) :
    0 ≤ area.firstRow ∧ 0 ≤ area.firstCol := by
  unfold Field.ofText at hread
  simp only [pure_eq_ok, throw_eq_error] at hread
  split at hread
  · obtain ⟨start?, hstart, hread⟩ := bind_eq_ok_iff.mp hread
    obtain ⟨stop?, hstop, hread⟩ := bind_eq_ok_iff.mp hread
    split at hread
    · next start stop =>
      cases hread
      cases harea
      have hfrom := Address.inQuadrant_of_ofText (mapError_eq_ok_iff.mp hstart)
      have hto := Address.inQuadrant_of_ofText (mapError_eq_ok_iff.mp hstop)
      exact ⟨le_min hfrom.1 hto.1, le_min hfrom.2 hto.2⟩
    · cases hread
  · obtain ⟨address?, haddress, hread⟩ := bind_eq_ok_iff.mp hread
    split at hread
    · next address =>
      cases hread
      cases harea
      have hplace := Address.inQuadrant_of_ofText (mapError_eq_ok_iff.mp haddress)
      exact ⟨le_min hplace.1 hplace.1, le_min hplace.2 hplace.2⟩
    · split at hread
      · cases hread
      · cases hread
        cases harea

end SheetAudit
