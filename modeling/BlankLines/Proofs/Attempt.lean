import Mathlib.Data.List.Forall2

/-!
Computations that may fail: what came of their parts. A list of attempts succeeds if all of them do, and
fails as the first that does not.
-/
namespace BlankLines

variable {ε α β : Type}

theorem bind_eq_ok_iff {first : Except ε α} {next : α → Except ε β} {result : β} :
    first >>= next = .ok result ↔ ∃ value, first = .ok value ∧ next value = .ok result := by
  cases first with
  | error fault => simp [bind, Except.bind]
  | ok value => simp [bind, Except.bind]

theorem toOption_eq_some_iff {result : Except ε α} {value : α} :
    result.toOption = some value ↔ result = .ok value := by
  cases result <;> simp [Except.toOption]

theorem mapM_eq_ok_of_forall {attempt : α → Except ε β} {outcome : α → β} {items : List α}
    (succeeds : ∀ item ∈ items, attempt item = .ok (outcome item)) :
    items.mapM attempt = .ok (items.map outcome) := by
  induction items with
  | nil => rfl
  | cons item items ih =>
    obtain ⟨first, rest⟩ := List.forall_mem_cons.mp succeeds
    rw [List.mapM_cons, first, ih rest]
    rfl

/-- A list of attempts comes to the results that they come to one by one. -/
theorem mapM_eq_ok_iff {attempt : α → Except ε β} {items : List α} {results : List β} :
    items.mapM attempt = .ok results ↔
      List.Forall₂ (fun item result => attempt item = .ok result) items results := by
  induction items generalizing results with
  | nil =>
    rw [List.forall₂_nil_left_iff]
    exact ⟨fun same => (Except.ok.inj same).symm, fun same => congrArg Except.ok same.symm⟩
  | cons item items ih =>
    rw [List.mapM_cons, bind_eq_ok_iff, List.forall₂_cons_left_iff]
    refine exists_congr fun first => ?_
    rw [bind_eq_ok_iff]
    constructor
    · rintro ⟨here, rest, later, same⟩
      exact ⟨rest, here, ih.mp later, (Except.ok.inj same).symm⟩
    · rintro ⟨rest, here, later, same⟩
      exact ⟨here, rest, ih.mpr later, congrArg Except.ok same.symm⟩

theorem mem_results_iff {attempt : α → Except ε β} {items : List α} {results : List β} {result : β}
    (succeeds : items.mapM attempt = .ok results) :
    result ∈ results ↔ ∃ item ∈ items, attempt item = .ok result := by
  have each := mapM_eq_ok_iff.mp succeeds
  clear succeeds
  induction each with
  | nil => simp
  | cons here _ ih =>
    simp only [List.mem_cons, ih, exists_eq_or_imp, here, Except.ok.injEq]
    rw [eq_comm]

/-- A list is read back from what is written for its items, if each of these is. -/
theorem mapM_map_eq_some {write : α → β} {read : β → Option α} {items : List α}
    (reads : ∀ item ∈ items, read (write item) = some item) :
    (items.map write).mapM read = some items := by
  induction items with
  | nil => rfl
  | cons item items ih =>
    obtain ⟨first, rest⟩ := List.forall_mem_cons.mp reads
    rw [List.map_cons, List.mapM_cons, first, ih rest]
    rfl

/-- Either every attempt succeeds, or one is the first that fails, and its fault is that of the list. -/
theorem mapM_ok_or_first_error (attempt : α → Except ε β) (items : List α) :
    (∃ results, items.mapM attempt = .ok results ∧
      List.Forall₂ (fun item result => attempt item = .ok result) items results) ∨
    ∃ before item after fault, items = before ++ item :: after ∧
      (∀ earlier ∈ before, ∃ result, attempt earlier = .ok result) ∧
      attempt item = .error fault ∧ items.mapM attempt = .error fault := by
  induction items with
  | nil => exact .inl ⟨[], rfl, .nil⟩
  | cons item items ih =>
    cases first : attempt item with
    | error fault =>
      refine .inr ⟨[], item, items, fault, rfl, ?_, first, ?_⟩
      · exact fun _ member => absurd member List.not_mem_nil
      · rw [List.mapM_cons, first]
        rfl
    | ok result =>
      rcases ih with ⟨results, succeeds, each⟩ | ⟨before, faulty, after, fault, split, fine, fails, all⟩
      · refine .inl ⟨result :: results, ?_, .cons first each⟩
        rw [List.mapM_cons, first, succeeds]
        rfl
      · refine .inr ⟨item :: before, faulty, after, fault, by rw [split, List.cons_append], ?_, fails, ?_⟩
        · exact List.forall_mem_cons.mpr ⟨⟨result, first⟩, fine⟩
        · rw [List.mapM_cons, first, all]
          rfl

/-- An attempt succeeds where what it works on is sound, and fails with the faults that there are. -/
structure Settles (result : Except ε α) (sound : Prop) (fault : ε → Prop) : Prop where
  ok_iff : (∃ value, result = .ok value) ↔ sound
  error_iff : ∀ error, result = .error error ↔ fault error

/-- The fault of the first item of a list that is not sound. -/
inductive FirstFault (sound : α → Prop) (fault : α → ε → Prop) : List α → ε → Prop
  | here {item : α} {items : List α} {error : ε} (faulty : fault item error) :
    FirstFault sound fault (item :: items) error
  | later {item : α} {items : List α} {error : ε} (fine : sound item)
      (rest : FirstFault sound fault items error) : FirstFault sound fault (item :: items) error

theorem firstFault_cons_iff {sound : α → Prop} {fault : α → ε → Prop} {item : α} {items : List α}
    {error : ε} : FirstFault sound fault (item :: items) error ↔
      fault item error ∨ sound item ∧ FirstFault sound fault items error := by
  constructor
  · intro first
    cases first with
    | here faulty => exact .inl faulty
    | later fine rest => exact .inr ⟨fine, rest⟩
  · rintro (faulty | ⟨fine, rest⟩)
    · exact .here faulty
    · exact .later fine rest

/-- In a list in strict order the first item that is not sound is the one before which all others are. -/
theorem firstFault_iff_of_pairwise {before : α → α → Prop} {sound : α → Prop} {fault : α → ε → Prop}
    {items : List α} {error : ε} (irrefl : ∀ item, ¬ before item item)
    (asymm : ∀ first second, before first second → ¬ before second first)
    (ordered : items.Pairwise before) : FirstFault sound fault items error ↔
      ∃ item ∈ items, fault item error ∧ ∀ other ∈ items, before other item → sound other := by
  induction items with
  | nil => exact ⟨nofun, nofun⟩
  | cons head items ih =>
    obtain ⟨first, ordered⟩ := List.pairwise_cons.mp ordered
    rw [firstFault_cons_iff, ih ordered]
    constructor
    · rintro (faulty | ⟨fine, item, member, faulty, others⟩)
      · refine ⟨head, List.mem_cons_self, faulty, List.forall_mem_cons.mpr ⟨?_, ?_⟩⟩
        · exact fun less => absurd less (irrefl head)
        · exact fun other member less => absurd less (asymm _ _ (first other member))
      · exact ⟨item, List.mem_cons_of_mem head member, faulty,
          List.forall_mem_cons.mpr ⟨fun _ => fine, others⟩⟩
    · rintro ⟨item, member, faulty, others⟩
      obtain ⟨fine, others⟩ := List.forall_mem_cons.mp others
      rcases List.mem_cons.mp member with rfl | member
      · exact .inl faulty
      · exact .inr ⟨fine (first item member), item, member, faulty, others⟩

namespace Settles

variable {result : Except ε α} {sound sound' : Prop} {fault fault' : ε → Prop}

theorem of_ok {value : α} (succeeds : result = .ok value) (fine : sound)
    (faultless : ∀ error, ¬ fault error) : Settles result sound fault where
  ok_iff := ⟨fun _ => fine, fun _ => ⟨value, succeeds⟩⟩
  error_iff error := ⟨fun fails => absurd (succeeds.symm.trans fails) nofun,
    fun faulty => absurd faulty (faultless error)⟩

theorem of_error {failure : ε} (fails : result = .error failure) (unfit : ¬ sound)
    (faulty : fault failure) (only : ∀ error, fault error → error = failure) :
    Settles result sound fault where
  ok_iff := ⟨fun ⟨_, succeeds⟩ => absurd (fails.symm.trans succeeds) nofun, fun fine => absurd fine unfit⟩
  error_iff error := by
    rw [fails, Except.error.injEq]
    exact ⟨fun same => same ▸ faulty, fun faulty => (only error faulty).symm⟩

theorem congr (settles : Settles result sound fault) (same : sound ↔ sound')
    (faults : ∀ error, fault error ↔ fault' error) : Settles result sound' fault' where
  ok_iff := settles.ok_iff.trans same
  error_iff error := (settles.error_iff error).trans (faults error)

/-- Attempts one after another: the second is made only if the first succeeds. -/
theorem bind {next : α → Except ε β} (first : Settles result sound fault)
    (second : ∀ value, result = .ok value → Settles (next value) sound' fault') :
    Settles (result >>= next) (sound ∧ sound') fun error => fault error ∨ sound ∧ fault' error := by
  cases outcome : result with
  | error failure =>
    have unfit : ¬ sound := fun fine => by
      obtain ⟨value, succeeds⟩ := first.ok_iff.mpr fine
      exact absurd (outcome.symm.trans succeeds) nofun
    have faulty := (first.error_iff failure).mp outcome
    refine of_error rfl (fun both => unfit both.1) (.inl faulty) fun error faults => ?_
    have fails := (first.error_iff error).mpr (faults.resolve_right fun both => unfit both.1)
    exact Except.error.inj (fails.symm.trans outcome)
  | ok value =>
    have fine := first.ok_iff.mp ⟨value, outcome⟩
    have faultless (error : ε) : ¬ fault error := fun faulty =>
      absurd (outcome.symm.trans ((first.error_iff error).mpr faulty)) nofun
    refine (second value outcome).congr (iff_and_self.mpr fun _ => fine) fun error => ?_
    exact ⟨fun faulty => .inr ⟨fine, faulty⟩, fun faults => (faults.resolve_left (faultless error)).2⟩

/-- What is made of a result in the end changes nothing in how it was come by. -/
theorem bind_ok {next : α → Except ε β} (settles : Settles result sound fault)
    (succeeds : ∀ value, ∃ outcome, next value = .ok outcome) :
    Settles (result >>= next) sound fault := by
  have fine (value : α) : Settles (next value) True fun _ => False := by
    obtain ⟨outcome, same⟩ := succeeds value
    exact of_ok same trivial fun _ => not_false
  refine (settles.bind fun value _ => fine value).congr (iff_of_eq (and_true _)) fun error => ?_
  exact ⟨fun faults => faults.resolve_right (·.2), .inl⟩

variable {attempt : α → Except ε β} {sound : α → Prop} {fault : α → ε → Prop} {items : List α}

theorem mapM (each : ∀ item ∈ items, Settles (attempt item) (sound item) (fault item)) :
    Settles (items.mapM attempt) (∀ item ∈ items, sound item) (FirstFault sound fault items) := by
  induction items with
  | nil => exact of_ok rfl (fun _ member => absurd member List.not_mem_nil) nofun
  | cons item items ih =>
    obtain ⟨first, rest⟩ := List.forall_mem_cons.mp each
    rw [List.mapM_cons]
    refine (first.bind fun _ _ => (ih rest).bind_ok fun _ => ⟨_, rfl⟩).congr
      List.forall_mem_cons.symm fun error => ?_
    exact firstFault_cons_iff.symm

theorem foldlM {step : β → α → Except ε β} (each : ∀ item ∈ items, ∀ state,
      Settles (step state item) (sound item) (fault item)) (state : β) :
    Settles (items.foldlM step state) (∀ item ∈ items, sound item)
      (FirstFault sound fault items) := by
  induction items generalizing state with
  | nil => exact of_ok rfl (fun _ member => absurd member List.not_mem_nil) nofun
  | cons item items ih =>
    obtain ⟨first, rest⟩ := List.forall_mem_cons.mp each
    rw [List.foldlM_cons]
    refine ((first state).bind fun next _ => ih rest next).congr List.forall_mem_cons.symm fun error => ?_
    exact firstFault_cons_iff.symm

end Settles

end BlankLines
