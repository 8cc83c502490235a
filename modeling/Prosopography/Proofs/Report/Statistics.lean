import Prosopography.Proofs.Collection.SortedMap
import Prosopography.Proofs.Report.Transition
import Prosopography.Report.Statistics

/-!
# What the statistics count

A tally of labels has one count for each occurrence, whatever the labels are. A person
counts as being in several trials if two appearances are in different ones.
-/

namespace Prosopography

/-- Every label adds one to a tally. -/
theorem sum_values_tallyLabels (labels : List String) :
    (tallyLabels labels).values.sum = labels.length := by
  have hfold : ∀ m : SortedMap Nat,
      (labels.foldl (fun m l => m.insert l ((m.find? l).getD 0 + 1)) m).values.sum =
        m.values.sum + labels.length := by
    induction labels with
    | nil => simp
    | cons l rest ih =>
        intro m
        have hinsert := m.sum_values_insert l ((m.find? l).getD 0 + 1)
        rw [List.foldl_cons, ih, List.length_cons]
        omega
  rw [tallyLabels, hfold, SortedMap.values, SortedMap.empty]
  simp

namespace Person

theorem one_lt_length_firstSeen_iff {l : List String} :
    1 < (firstSeen l).length ↔ ∃ a ∈ l, ∃ b ∈ l, a ≠ b := by
  cases l with
  | nil => simp [firstSeen]
  | cons a rest =>
      have hother : 1 < (firstSeen (a :: rest)).length ↔ ∃ b ∈ rest, b ≠ a := by
        rw [firstSeen, List.length_cons, Nat.lt_add_left_iff_pos]
        cases hrest : rest.filter (· != a) with
        | nil => simpa [firstSeen, List.filter_eq_nil_iff] using hrest
        | cons b others =>
            have hb : b ∈ rest.filter (· != a) := hrest ▸ List.mem_cons_self
            simpa [firstSeen] using ⟨b, by simpa using hb⟩
      rw [hother]
      constructor
      · rintro ⟨b, hb, hne⟩
        exact ⟨b, List.mem_cons_of_mem a hb, a, List.mem_cons_self, hne⟩
      · rintro ⟨b, hb, c, hc, hne⟩
        -- Of two different elements one is not the first.
        by_cases hba : b = a
        · have hca : c ≠ a := fun h => hne (hba.trans h.symm)
          exact ⟨c, List.mem_of_ne_of_mem hca hc, hca⟩
        · exact ⟨b, List.mem_of_ne_of_mem hba hb, hba⟩

/-- Several distinct trials are two appearances in different trials. -/
theorem one_lt_length_distinctTrials_iff {p : Person} :
    1 < p.distinctTrials.length ↔
      ∃ a ∈ p.appearances, ∃ b ∈ p.appearances, a.trial ≠ b.trial := by
  rw [distinctTrials, one_lt_length_firstSeen_iff]
  simp only [List.mem_map, exists_exists_and_eq_and]

end Person

/-- Only flagged persons have a transition. -/
theorem Transition.length_ofPersons_le (persons : List Person) :
    (Transition.ofPersons persons).length ≤ persons.countP (·.witnessToAccused) := by
  rw [ofPersons, List.length_filterMap_eq_countP]
  apply List.countP_mono_left
  intro p _ hp
  exact (isSome_ofPerson_iff.mp hp).1

end Prosopography
