import BlankLines.Proofs.Fixer.Region

/-!
The order of changesets. Those that a fixer accepts have no position in common, so they can be applied in
any order, and those that it refuses can be left out.
-/
namespace BlankLines.Fixer

/-- The two changesets have no position in common. -/
def Separate (first second : Changeset) : Prop :=
  ∀ correction ∈ first, ∀ other ∈ second, other.position ≠ correction.position

theorem Separate.symm {first second : Changeset} (separate : Separate first second) :
    Separate second first := by
  intro correction member other inside meet
  exact separate other inside correction member meet.symm

variable {fixer : Fixer} {changeset : Changeset} {changesets permuted before : List Changeset}
  {position : Nat}

/-- A token is free after a run if it was before and no accepted changeset has a correction there. -/
theorem free_applyAll_iff : (fixer.applyAll changesets).free position = true ↔
    fixer.free position = true ∧ ∀ taken ∈ fixer.accepted changesets,
      ∀ correction ∈ taken, correction.position ≠ position := by
  induction changesets generalizing fixer with
  | nil => simp [applyAll, accepted]
  | cons changeset rest ih =>
    rw [applyAll, List.foldl_cons, ← applyAll, ih, accepted]
    cases accepts : fixer.accepts changeset with
    | false => simp [apply_of_refused, accepts]
    | true => simp [free_apply accepts, and_assoc]

/-- A changeset is accepted after a run if it would have been before and meets no accepted one. -/
theorem accepts_applyAll_iff : (fixer.applyAll before).accepts changeset = true ↔
    ∀ correction ∈ changeset, fixer.free correction.position = true ∧
      ∀ taken ∈ fixer.accepted before, ∀ other ∈ taken, other.position ≠ correction.position := by
  simp only [accepts_iff, free_applyAll_iff]

theorem accepts_of_mem_accepted (member : changeset ∈ fixer.accepted changesets) :
    fixer.accepts changeset = true := by
  induction changesets generalizing fixer with
  | nil => exact absurd member List.not_mem_nil
  | cons first rest ih =>
    rw [accepted] at member
    split at member
    · next accepts =>
      cases List.mem_cons.mp member with
      | inl same => exact same ▸ accepts
      | inr later =>
        by_contra refused
        exact refused_apply refused (ih later)
    · exact ih member

/-- Accepted changesets have no position in common. -/
theorem accepted_separate (fixer : Fixer) (changesets : List Changeset) :
    (fixer.accepted changesets).Pairwise Separate := by
  induction changesets generalizing fixer with
  | nil => exact .nil
  | cons first rest ih =>
    rw [accepted]
    split
    · next accepts =>
      refine List.pairwise_cons.mpr ⟨?_, ih _⟩
      intro later member
      -- The later one is accepted where the tokens of the first are no longer free.
      have alone : (fixer.applyAll [first]).accepts later = true := accepts_of_mem_accepted member
      intro correction inside other listed meet
      have apart := (accepts_applyAll_iff.mp alone other listed).2 first (by simp [accepted, accepts])
      exact apart correction inside meet.symm
    · exact ih fixer

/-- Changesets that have no position in common are all accepted if each of them is by itself. -/
theorem accepted_eq_self (separate : changesets.Pairwise Separate)
    (accepts : ∀ changeset ∈ changesets, fixer.accepts changeset = true) :
    fixer.accepted changesets = changesets := by
  induction changesets generalizing fixer with
  | nil => rfl
  | cons first rest ih =>
    obtain ⟨apart, separate⟩ := List.pairwise_cons.mp separate
    rw [accepted, if_pos (accepts first List.mem_cons_self)]
    congr 1
    apply ih separate
    intro later member
    exact accepts_apply (accepts later (List.mem_cons_of_mem _ member)) (apart later member).symm

theorem separate_of_perm (perm : permuted.Perm (fixer.accepted changesets)) :
    permuted.Pairwise Separate :=
  perm.symm.pairwise (accepted_separate fixer changesets) Separate.symm

theorem accepted_of_perm (perm : permuted.Perm (fixer.accepted changesets)) :
    fixer.accepted permuted = permuted := by
  apply accepted_eq_self
  · exact separate_of_perm perm
  · intro changeset member
    exact accepts_of_mem_accepted (perm.subset member)

/-- At one position at most one of some separate changesets has corrections, so their order does not
matter there. -/
theorem filter_flatten_perm (perm : permuted.Perm changesets) (separate : permuted.Pairwise Separate)
    (position : Nat) : permuted.flatten.filter (·.position = position) =
      changesets.flatten.filter (·.position = position) := by
  induction perm with
  | nil => rfl
  | cons first _ ih =>
    rw [List.flatten_cons, List.flatten_cons, List.filter_append, List.filter_append,
      ih separate.of_cons]
  | swap first second rest =>
    -- Of two changesets that change places, at most one has corrections here.
    have apart := (List.pairwise_cons.mp separate).1 first List.mem_cons_self
    by_cases meets : ∃ correction ∈ second, correction.position = position
    · obtain ⟨correction, member, here⟩ := meets
      have none : first.filter (·.position = position) = [] := by
        rw [List.filter_eq_nil_iff]
        intro other inside
        simpa [← here] using apart correction member other inside
      simp [none]
    · have none : second.filter (·.position = position) = [] := by
        rw [List.filter_eq_nil_iff]
        intro correction member
        simpa using fun here => meets ⟨correction, member, here⟩
      simp [none]
  | trans one _ ihOne ihTwo =>
    exact (ihOne separate).trans (ihTwo (one.pairwise separate Separate.symm))

/-- A changeset is accepted if all its positions are in range and no accepted one before has touched
them, and one that is refused leaves no trace, wherever it stands. The accepted ones alone, in any order,
are all accepted and give the same file and the same count. -/
theorem allOrNothing_orderFree (file : TokenFile) :
    (∀ before changeset, (((ofFile file).applyAll before).apply changeset).2 = true ↔
      ∀ correction ∈ changeset, correction.position < file.tokens.length ∧
        ∀ taken ∈ (ofFile file).accepted before, ∀ other ∈ taken,
          other.position ≠ correction.position) ∧
    (∀ before changeset behind, (((ofFile file).applyAll before).apply changeset).2 = false →
      (ofFile file).applyAll (before ++ changeset :: behind) =
        (ofFile file).applyAll (before ++ behind)) ∧
    ∀ changesets permuted, permuted.Perm ((ofFile file).accepted changesets) →
      (ofFile file).accepted permuted = permuted ∧
      ((ofFile file).applyAll permuted).finish = ((ofFile file).applyAll changesets).finish ∧
      ((ofFile file).applyAll permuted).applied = ((ofFile file).applyAll changesets).applied := by
  refine ⟨?_, ?_, ?_⟩
  · intro before changeset
    simp only [snd_apply, accepts_applyAll_iff, free_ofFile_iff]
  · intro before changeset behind refused
    rw [snd_apply, ← Bool.not_eq_true] at refused
    simp only [applyAll, List.foldl_append, List.foldl_cons] at refused ⊢
    rw [apply_of_refused refused]
  · intro changesets permuted perm
    have all := accepted_of_perm perm
    refine ⟨all, ?_, ?_⟩
    · rw [finish_applyAll, finish_applyAll, all]
      apply TokenFile.revise_congr
      exact filter_flatten_perm perm (separate_of_perm perm)
    · rw [applied_applyAll, applied_applyAll, all, perm.flatten.length_eq]

def twoWords : TokenFile where
  tokens := [
    { kind := .other, line := 1, content := "one" },
    { kind := .whitespace, line := 1, content := " " },
    { kind := .other, line := 1, content := "two" }]

/-- Of a mixed changeset, one that meets it, one that is partly out of range, an empty one and one with
a position twice, the fixer refuses the second and the third. -/
theorem allOrNothing_orderFree_twoWords :
    let mixed : Changeset := [.insertNewline 1, .delete 1, .insertNewline 1]
    let twice : Changeset := [.insertNewline 2, .insertNewline 2, .delete 0]
    let offered : List Changeset := [mixed, [.delete 1], [.delete 0, .delete 3], [], twice]
    ((((ofFile twoWords).applyAll [mixed]).apply [.delete 1]).2 = false ∧
      (ofFile twoWords).applyAll [mixed, [.delete 1], twice] =
        (ofFile twoWords).applyAll [mixed, twice]) ∧
    [twice, [], mixed].Perm ((ofFile twoWords).accepted offered) ∧
      ((ofFile twoWords).applyAll [twice, [], mixed]).finish =
        ((ofFile twoWords).applyAll offered).finish ∧
      ((ofFile twoWords).applyAll offered).finish.render = "\ntwo\n\n" := by
  intro mixed twice offered
  obtain ⟨_, traceless, orderFree⟩ := allOrNothing_orderFree twoWords
  have perm : [twice, [], mixed].Perm ((ofFile twoWords).accepted offered) := by decide
  have refused : (((ofFile twoWords).applyAll [mixed]).apply [.delete 1]).2 = false := by decide
  exact ⟨⟨refused, traceless [mixed] [.delete 1] [twice] refused⟩, perm,
    (orderFree offered _ perm).2.1, by decide +kernel⟩

end BlankLines.Fixer
