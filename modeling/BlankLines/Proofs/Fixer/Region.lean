import BlankLines.Proofs.Fixer.Acceptance

/-!
What a fixer does to one region of a file. Where all changesets that enter the region are the same, the
first of them is accepted and the others are refused, so the region is edited by it alone.
-/
namespace BlankLines.Fixer

/-- Whether there is a token at a position and no accepted changeset has edited it. -/
def free (fixer : Fixer) (position : Nat) : Bool :=
  fixer.slots[position]?.any (!·.touched)

variable {fixer : Fixer} {changeset repair : Changeset} {changesets : List Changeset}
  {region : Nat → Bool} {position : Nat}

theorem accepts_iff : fixer.accepts changeset = true ↔
    ∀ correction ∈ changeset, fixer.free correction.position = true :=
  List.all_eq_true

theorem free_ofFile_iff {file : TokenFile} :
    (ofFile file).free position = true ↔ position < file.tokens.length := by
  constructor
  · intro free
    by_contra beyond
    have none : file.tokens[position]? = none := List.getElem?_eq_none (Nat.le_of_not_lt beyond)
    simp [Fixer.free, ofFile, none] at free
  · intro inside
    simp [free, ofFile, inside]

theorem touched_correct (eol : String) (slots : List EditSlot) (correction : Correction) :
    (correct eol slots correction).map (·.touched) = slots.map (·.touched) := by
  cases correction with
  | delete position =>
    exact (map_modify _ EditSlot.erase id (fun _ => rfl) slots position).trans (List.modify_id _ _)
  | insertNewline position =>
    refine (map_modify _ (EditSlot.addNewline eol) id (fun slot => ?_) slots position).trans
      (List.modify_id _ _)
    unfold EditSlot.addNewline
    split <;> rfl

theorem touched_corrected (eol : String) (slots : List EditSlot) (changeset : Changeset) :
    (changeset.foldl (correct eol) slots).map (·.touched) = slots.map (·.touched) := by
  induction changeset generalizing slots with
  | nil => rfl
  | cons correction rest ih => rw [List.foldl_cons, ih, touched_correct]

theorem free_apply (accepts : fixer.accepts changeset = true) (position : Nat) :
    (fixer.apply changeset).1.free position =
      (fixer.free position && !changeset.any (·.position = position)) := by
  have marks := congrArg (·[position]?) (touched_corrected fixer.eol fixer.slots changeset)
  simp only [List.getElem?_map] at marks
  simp only [free, apply, accepts, if_true, touch, List.getElem?_mapIdx]
  cases before : fixer.slots[position]? <;>
    cases after : (changeset.foldl (correct fixer.eol) fixer.slots)[position]? <;>
    simp_all only [Option.map_none, Option.map_some, Option.any_none, Option.any_some, reduceCtorEq,
      Bool.false_and, Option.some.injEq]
  split <;> simp_all

theorem free_of_apply (still : (fixer.apply changeset).1.free position = true) :
    fixer.free position = true := by
  by_cases accepts : fixer.accepts changeset = true
  · rw [free_apply accepts, Bool.and_eq_true] at still
    exact still.1
  · rwa [apply_of_refused accepts] at still

theorem refused_apply (refused : ¬ fixer.accepts repair = true) :
    ¬ (fixer.apply changeset).1.accepts repair = true := by
  intro accepts
  apply refused
  rw [accepts_iff] at accepts ⊢
  intro correction member
  exact free_of_apply (accepts correction member)

/-- A changeset that has been tried is refused when it comes again, unless it is empty. -/
theorem refused_again (nonempty : repair ≠ []) : ¬ (fixer.apply repair).1.accepts repair = true := by
  by_cases accepts : fixer.accepts repair = true
  · obtain ⟨correction, rest, rfl⟩ := List.exists_cons_of_ne_nil nonempty
    intro again
    have free := accepts_iff.mp again correction List.mem_cons_self
    rw [free_apply accepts] at free
    simp at free
  · exact refused_apply accepts

theorem accepts_apply (accepts : fixer.accepts repair = true)
    (apart : ∀ correction ∈ repair, ∀ other ∈ changeset, other.position ≠ correction.position) :
    (fixer.apply changeset).1.accepts repair = true := by
  by_cases taken : fixer.accepts changeset = true
  · rw [accepts_iff] at accepts ⊢
    intro correction member
    rw [free_apply taken, accepts correction member]
    simpa using apart correction member
  · rwa [apply_of_refused taken]

/-- None of the changeset's positions is in the region. -/
def Outside (region : Nat → Bool) (changeset : Changeset) : Prop :=
  ∀ correction ∈ changeset, region correction.position = false

theorem Outside.filter_eq_nil (outside : Outside region changeset) :
    changeset.filter (region ·.position) = [] := by
  rw [List.filter_eq_nil_iff]
  intro correction member
  rw [outside correction member]
  exact Bool.false_ne_true

theorem filter_accepted_of_refused (refused : ¬ fixer.accepts repair = true)
    (entering : ∀ changeset ∈ changesets, changeset = repair ∨ Outside region changeset) :
    (fixer.accepted changesets).flatten.filter (region ·.position) = [] := by
  induction changesets generalizing fixer with
  | nil => rfl
  | cons changeset rest ih =>
    have later := fun other member => entering other (List.mem_cons_of_mem _ member)
    rw [accepted]
    split
    · next accepts =>
      rcases entering changeset List.mem_cons_self with rfl | outside
      · exact absurd accepts refused
      · rw [List.flatten_cons, List.filter_append, outside.filter_eq_nil, List.nil_append]
        exact ih (refused_apply refused) later
    · exact ih refused later

/-- The region is edited by the one changeset that enters it, once. -/
theorem filter_accepted (nonempty : repair ≠ []) (accepts : fixer.accepts repair = true)
    (inside : ∀ correction ∈ repair, region correction.position = true)
    (entering : ∀ changeset ∈ changesets, changeset = repair ∨ Outside region changeset)
    (offered : repair ∈ changesets) :
    (fixer.accepted changesets).flatten.filter (region ·.position) = repair := by
  induction changesets generalizing fixer with
  | nil => exact absurd offered List.not_mem_nil
  | cons changeset rest ih =>
    have later := fun other member => entering other (List.mem_cons_of_mem _ member)
    by_cases same : changeset = repair
    · subst same
      have whole : changeset.filter (region ·.position) = changeset := List.filter_eq_self.mpr inside
      rw [accepted, if_pos accepts, List.flatten_cons, List.filter_append, whole,
        filter_accepted_of_refused (refused_again nonempty) later, List.append_nil]
    · have outside := (entering changeset List.mem_cons_self).resolve_left same
      have offered := (List.mem_cons.mp offered).resolve_left (Ne.symm same)
      rw [accepted]
      split
      · rw [List.flatten_cons, List.filter_append, outside.filter_eq_nil, List.nil_append]
        refine ih (accepts_apply accepts ?_) later offered
        intro correction member other there meet
        have elsewhere := outside other there
        rw [meet, inside correction member] at elsewhere
        exact Bool.noConfusion elsewhere
      · exact ih accepts later offered

theorem filter_accepted_outside (outside : ∀ changeset ∈ changesets, Outside region changeset) :
    (fixer.accepted changesets).flatten.filter (region ·.position) = [] := by
  rw [List.filter_eq_nil_iff]
  intro correction member
  obtain ⟨changeset, taken, inside⟩ := List.mem_flatten.mp member
  have offered := (accepted_sublist fixer changesets).subset taken
  rw [outside changeset offered correction inside]
  exact Bool.false_ne_true

/-- Of a changeset that could be accepted at first, the fixer accepts one of its positions: by itself,
or by another changeset that came before it. -/
theorem exists_accepted_meeting (nonempty : changeset ≠ []) (accepts : fixer.accepts changeset = true)
    (offered : changeset ∈ changesets) :
    ∃ taken ∈ fixer.accepted changesets, ∃ other ∈ taken, ∃ own ∈ changeset,
      other.position = own.position := by
  induction changesets generalizing fixer with
  | nil => exact absurd offered List.not_mem_nil
  | cons first rest ih =>
    rw [accepted]
    split
    · by_cases apart : ∀ own ∈ changeset, ∀ other ∈ first, other.position ≠ own.position
      · have different : changeset ≠ first := by
          rintro rfl
          obtain ⟨own, _, rfl⟩ := List.exists_cons_of_ne_nil nonempty
          exact apart own List.mem_cons_self own List.mem_cons_self rfl
        obtain ⟨taken, member, meets⟩ := ih (accepts_apply accepts apart)
          ((List.mem_cons.mp offered).resolve_left different)
        exact ⟨taken, List.mem_cons_of_mem _ member, meets⟩
      · simp only [not_forall, not_not] at apart
        obtain ⟨own, inside, other, there, meet⟩ := apart
        exact ⟨first, List.mem_cons_self, other, there, own, inside, meet⟩
    · next refused =>
      have different : changeset ≠ first := by
        rintro rfl
        exact refused accepts
      exact ih accepts ((List.mem_cons.mp offered).resolve_left different)

end BlankLines.Fixer
