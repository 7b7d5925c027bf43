import BlankLines.Keyed
import Mathlib.Data.List.Nodup
import Mathlib.Data.String.Basic

/-!
Lists of values under names: what stands under a name, and the order of the names.
-/
namespace BlankLines.Keyed

variable {α : Type} {entries : Keyed α} {name key : String} {value : α}

/-- No name stands twice. -/
def Distinct (entries : Keyed α) : Prop :=
  (entries.map (·.1)).Nodup

instance : Decidable (Distinct entries) :=
  inferInstanceAs (Decidable (entries.map (·.1)).Nodup)

@[simp] theorem get?_nil : get? ([] : Keyed α) name = none :=
  rfl

theorem get?_cons : get? ((key, value) :: entries) name =
    if key = name then some value else get? entries name := by
  rw [get?, get?, List.find?_cons]
  by_cases same : key = name <;> simp [same]

theorem mem_of_get? (found : get? entries name = some value) : (name, value) ∈ entries := by
  obtain ⟨⟨key, _⟩, search, rfl⟩ := Option.map_eq_some_iff.mp found
  obtain rfl : key = name := by simpa using List.find?_some search
  exact List.mem_of_find?_eq_some search

theorem get?_eq_none_iff : get? entries name = none ↔ name ∉ entries.map (·.1) := by
  rw [get?, Option.map_eq_none_iff, List.find?_eq_none]
  simp only [decide_eq_true_eq, List.mem_map, not_exists, not_and]

theorem Distinct.tail (distinct : Distinct ((key, value) :: entries)) :
    get? entries key = none ∧ Distinct entries := by
  rw [get?_eq_none_iff]
  exact List.nodup_cons.mp distinct

theorem Distinct.get?_eq_some_iff (distinct : Distinct entries) :
    get? entries name = some value ↔ (name, value) ∈ entries := by
  refine ⟨mem_of_get?, fun member => ?_⟩
  induction entries with
  | nil => exact absurd member List.not_mem_nil
  | cons entry entries ih =>
    obtain ⟨key, first⟩ := entry
    obtain ⟨fresh, distinct⟩ := distinct.tail
    rw [get?_cons]
    rcases List.mem_cons.mp member with same | later
    · cases same
      rw [if_pos rfl]
    · have found := ih distinct later
      have differs : key ≠ name := by
        rintro rfl
        exact Option.some_ne_none value (found.symm.trans fresh)
      rw [if_neg differs, found]

theorem get?_without (differs : name ≠ key) : get? (without entries key) name = get? entries name := by
  rw [get?, get?, without, List.find?_filter]
  congr 2
  funext entry
  by_cases same : entry.1 = name <;> simp [same, differs]

theorem get?_map (replace : String → α → α) :
    get? (entries.map fun (key, old) => (key, replace key old)) name =
      (get? entries name).map (replace name) := by
  induction entries with
  | nil => rfl
  | cons entry entries ih =>
    rw [List.map_cons, get?_cons, get?_cons, ih]
    split
    · next same => rw [same, Option.map_some]
    · rfl

theorem get?_append (more : Keyed α) :
    get? (entries ++ more) name = (get? entries name).or (get? more name) := by
  rw [get?, List.find?_append, Option.map_or]
  rfl

/-- Putting a value changes what stands under its name, and nothing else. -/
theorem get?_put : get? (put entries name value) key =
    if key = name then some value else get? entries key := by
  rw [put, has]
  cases held : get? entries name with
  | none =>
    rw [if_neg (by simp), get?_append, get?_cons, get?_nil]
    by_cases same : name = key
    · rw [if_pos same, if_pos same.symm, ← same, held, Option.none_or]
    · rw [if_neg same, if_neg (Ne.symm same), Option.or_none]
  | some old =>
    rw [if_pos (by simp), get?_map fun key old => if key = name then value else old]
    by_cases same : key = name
    · rw [if_pos same, same, held, Option.map_some, if_pos rfl]
    · rw [if_neg same]
      simp [same]

theorem Distinct.append (distinct : Distinct entries) (fresh : get? entries name = none) :
    Distinct (entries ++ [(name, value)]) := by
  rw [Distinct, List.map_append, List.map_singleton, List.nodup_append]
  refine ⟨distinct, List.nodup_singleton _, fun key member other single => ?_⟩
  rw [List.mem_singleton.mp single]
  rintro rfl
  exact get?_eq_none_iff.mp fresh member

theorem Distinct.put (distinct : Distinct entries) (name : String) (value : α) :
    Distinct (put entries name value) := by
  rw [Keyed.put, has]
  cases held : get? entries name with
  | none => exact distinct.append held
  | some old =>
    rw [if_pos (by simp), Distinct, List.map_map]
    exact distinct

theorem Distinct.without_append (distinct : Distinct entries) (name : String) (value : α) :
    Distinct (without entries name ++ [(name, value)]) := by
  have rest : Distinct (without entries name) := distinct.sublist (List.filter_sublist.map _)
  refine rest.append (get?_eq_none_iff.mpr fun member => ?_)
  obtain ⟨entry, kept, same⟩ := List.mem_map.mp member
  simpa [same] using (List.mem_filter.mp kept).2

theorem mem_sorted {entry : String × α} : entry ∈ sorted entries ↔ entry ∈ entries :=
  (List.mergeSort_perm entries _).mem_iff

theorem Distinct.sorted (distinct : Distinct entries) : Distinct (sorted entries) :=
  ((List.mergeSort_perm entries _).map _).nodup_iff.mpr distinct

theorem notAfter_iff (a b : String × α) : (!decide (b.1 < a.1)) = true ↔ a.1 ≤ b.1 := by
  rw [Bool.not_eq_true', decide_eq_false_iff_not, not_lt]

/-- Of two entries in sorted order the first has the lesser name. -/
theorem pairwise_sorted (distinct : Distinct entries) :
    (sorted entries).Pairwise fun a b => a.1 < b.1 := by
  have ascending : (sorted entries).Pairwise fun a b => (!decide (b.1 < a.1)) = true := by
    refine List.pairwise_mergeSort (fun a b c first second => ?_) (fun a b => ?_) entries
    · rw [notAfter_iff] at *
      exact le_trans first second
    · rw [Bool.or_eq_true, notAfter_iff, notAfter_iff]
      exact le_total a.1 b.1
  have apart : (sorted entries).Pairwise fun a b => a.1 ≠ b.1 := List.pairwise_map.mp distinct.sorted
  exact (ascending.and apart).imp fun both => lt_of_le_of_ne ((notAfter_iff _ _).mp both.1) both.2

end BlankLines.Keyed
