import BlankLines.Proofs.Fixer.Region
import BlankLines.Proofs.TokenFile.Gap
import Mathlib.Algebra.Order.BigOperators.Group.Finset

/-!
What a fixer does to one gap when repairs of the gap are all that enters it. One repair that is offered
again and again is made once. Repairs that add the missing lines at different tokens may be made
together, so that the gap has lines enough and perhaps too many.
-/
namespace BlankLines.Fixer

open TokenFile

variable {file : TokenFile} {changesets : List Changeset} {wanted anchor low high : Nat}

theorem accepts_repairAt (gap : file.Adjoin low high) (below : anchor < high) (wanted : Nat) :
    (ofFile file).accepts (file.repairAt wanted anchor low high) = true := by
  rw [accepts_iff]
  intro correction member
  rcases mem_repairAt member with ⟨_, place, listed, rfl⟩ | ⟨_, rfl⟩
  · exact free_ofFile_iff.mpr ((mem_lineBreaks.mp listed).2.1.trans gap.high_lt)
  · exact free_ofFile_iff.mpr (below.trans gap.high_lt)

/-- A gap that one repair enters, and no other changeset, is left with what is wanted. -/
theorem sum_breaksAfter_accepted (laidOut : file.LaidOut) (gap : file.Adjoin low high)
    (above : low ≤ anchor) (below : anchor < high)
    (entering : ∀ changeset ∈ changesets, Outside (inGap low high) changeset ∨
      changeset = file.repairAt wanted anchor low high ∧
        ∑ position ∈ Finset.Ico low high, file.breaksOf position ≠ wanted + 1)
    (offered : ∑ position ∈ Finset.Ico low high, file.breaksOf position ≠ wanted + 1 →
      file.repairAt wanted anchor low high ∈ changesets) :
    ∑ position ∈ Finset.Ico low high,
      file.breaksAfter ((ofFile file).accepted changesets).flatten position = wanted + 1 := by
  by_cases right : ∑ position ∈ Finset.Ico low high, file.breaksOf position = wanted + 1
  · have same : ((ofFile file).accepted changesets).flatten.filter (inGap low high ·.position) =
        ([] : List Correction).filter (inGap low high ·.position) :=
      filter_accepted_outside fun changeset member =>
        (entering changeset member).resolve_right fun repaired => repaired.2 right
    rw [sum_breaksAfter_congr same, breaksAfter_nil, right]
  · have within := @inGap_of_repairAt file anchor low high above below wanted
    have same : ((ofFile file).accepted changesets).flatten.filter (inGap low high ·.position) =
        file.repairAt wanted anchor low high :=
      filter_accepted (repairAt_ne_nil laidOut gap right) (accepts_repairAt gap below wanted) within
        (fun changeset member => (entering changeset member).symm.imp_left And.left) (offered right)
    rw [sum_breaksAfter_congr (same.trans (List.filter_eq_self.mpr within).symm)]
    exact sum_breaksAfter_repairAt laidOut gap above below wanted

/-- A gap with too few line endings has enough when repairs have entered it, wherever each of them adds
the missing lines. -/
theorem le_sum_breaksAfter_accepted (laidOut : file.LaidOut) (gap : file.Adjoin low high)
    (above : low ≤ anchor) (below : anchor < high)
    (short : ∑ position ∈ Finset.Ico low high, file.breaksOf position < wanted + 1)
    (entering : ∀ changeset ∈ changesets, Outside (inGap low high) changeset ∨
      ∃ place, low ≤ place ∧ place < high ∧ changeset = file.repairAt wanted place low high)
    (offered : file.repairAt wanted anchor low high ∈ changesets) :
    wanted + 1 ≤ ∑ position ∈ Finset.Ico low high,
      file.breaksAfter ((ofFile file).accepted changesets).flatten position := by
  obtain ⟨taken, accepted, other, there, own, inside, meet⟩ := exists_accepted_meeting
    (repairAt_ne_nil laidOut gap (Nat.ne_of_lt short)) (accepts_repairAt gap below wanted) offered
  have enters := inGap_of_repairAt above below wanted own inside
  have given {changeset : Changeset} (member : changeset ∈ (ofFile file).accepted changesets) :=
    entering changeset ((accepted_sublist _ _).subset member)
  have kept : ∀ position ∈ Finset.Ico low high,
      .delete position ∉ ((ofFile file).accepted changesets).flatten := by
    intro position member deleted
    obtain ⟨changeset, made, listed⟩ := List.mem_flatten.mp deleted
    rcases given made with outside | ⟨place, _, _, rfl⟩
    · have elsewhere := outside _ listed
      rw [Correction.position, inGap, decide_eq_true (Finset.mem_Ico.mp member)] at elsewhere
      exact Bool.noConfusion elsewhere
    · rcases mem_repairAt listed with ⟨surplus, _⟩ | ⟨_, insert⟩
      · exact Nat.lt_asymm surplus short
      · exact Correction.noConfusion insert
  obtain ⟨place, from_low, to_high, rfl⟩ := (given accepted).resolve_left fun outside => by
    have elsewhere := outside other there
    rw [meet, enters] at elsewhere
    exact Bool.noConfusion elsewhere
  rw [← sum_breaksAfter_repairAt laidOut gap from_low to_high wanted]
  exact Finset.sum_le_sum fun position member =>
    laidOut.breaksAfter_mono (kept position member) (List.sublist_flatten_of_mem accepted)

end BlankLines.Fixer
