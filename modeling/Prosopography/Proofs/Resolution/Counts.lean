import Prosopography.Proofs.Cluster.Decisions
import Prosopography.Proofs.Report.Statistics
import Prosopography.Proofs.Resolution.Partition
import Mathlib.Algebra.BigOperators.Group.List.Basic

/-!
# The counters of a run

What a run counts along the way and what its statistics count afterwards fit the names,
the persons and the appearances that are there.
-/

namespace Prosopography.Resolution

/-- The counters of a run, told by what they count. -/
structure Counted (r : Resolution) (mentions : MentionTable) (trials : TrialTable) : Prop where
  /-- Every recorded name is counted, with a person or for review. -/
  names : mentions.size = r.statistics.names + r.summary.manualReview
  /-- Every merge and every attachment leaves one cluster less. -/
  clusters : r.summary.initialClusters =
    r.summary.mergedClusters + r.summary.merges + r.summary.attachments
  persons : r.statistics.persons = r.persons.length
  merged : r.statistics.persons = r.summary.mergedClusters
  standings : r.statistics.standings.values.sum = r.statistics.persons
  genders : r.statistics.genders.values.sum = r.statistics.persons
  variants : r.statistics.names = (r.persons.map (·.variants.length)).sum
  persons_le_names : r.statistics.persons ≤ r.statistics.names
  unresolved : r.summary.unresolvedTrials =
    (r.persons.flatMap (·.appearances)).countP fun a => a.trial ∉ trials.toList.map (·.id)
  multiTrial : r.statistics.multiTrial =
    r.persons.countP fun p => ∃ a ∈ p.appearances, ∃ b ∈ p.appearances, a.trial ≠ b.trial
  transitions : r.transitions.length ≤ r.statistics.transitions

section Run

variable (settings : Settings) (mentions : MentionTable) (trials : TrialTable)

/-- The names of the statistics are the variants of all persons. -/
theorem names_run :
    (run settings mentions trials).statistics.names =
      ((run settings mentions trials).persons.flatMap (·.variants)).length := by
  calc
    (run settings mentions trials).statistics.names =
        (run settings mentions trials).attribution.toList.length :=
      (IndexedTable.length_toList _).symm
    _ = ((run settings mentions trials).persons.flatMap fun p =>
          p.variants.map fun v => (v, p.id)).length := by rw [attribution_run]
    _ = ((run settings mentions trials).persons.flatMap (·.variants)).length := by
      simp [List.length_flatMap]

/-- A name either has a key or is set aside. -/
theorem length_keyedNames_add (mentions : MentionTable) :
    (Cluster.keyedNames mentions).length + (Cluster.initial mentions).unkeyed.length =
      mentions.size := by
  have hparts := List.filter_append_perm (fun v => !(Name.key v).isEmpty)
    (mentions.toList.map (·.name))
  have hlength := hparts.length_eq
  rw [List.length_append, List.length_map, IndexedTable.length_toList] at hlength
  rw [Cluster.unkeyed_initial, Cluster.keyedNames]
  simpa using hlength

theorem length_persons_run :
    (run settings mentions trials).persons.length = (clusters settings mentions).length := by
  rw [persons_run, List.length_map, List.length_zipIdx]

theorem persons_le_names_run :
    (run settings mentions trials).persons.length ≤
      (run settings mentions trials).statistics.names := by
  rw [names_run, List.length_flatMap]
  calc
    (run settings mentions trials).persons.length =
        ((run settings mentions trials).persons.map (·.variants.length)).length :=
      (List.length_map _).symm
    _ ≤ ((run settings mentions trials).persons.map (·.variants.length)).sum := by
      apply List.length_le_sum_of_one_le
      intro n hn
      obtain ⟨p, hp, rfl⟩ := List.mem_map.mp hn
      exact List.length_pos_of_ne_nil ((partitions_run settings mentions trials).inhabited p hp)

/-- The counter has the appearances in trials that are not in the table. -/
theorem unresolvedTrials_run :
    (run settings mentions trials).summary.unresolvedTrials =
      ((run settings mentions trials).persons.flatMap (·.appearances)).countP
        fun a => a.trial ∉ trials.toList.map (·.id) :=
  Census.unresolved_eq trials _

/-- The counters of a run are true. -/
theorem counted_run : (run settings mentions trials).Counted mentions trials where
  names := by
    rw [names_run, (variants_perm settings mentions trials).length_eq]
    exact (length_keyedNames_add mentions).symm
  clusters := by
    have hgather := settings.accountsFor_gather (Cluster.initial mentions).clusters
    rw [Outcome.AccountsFor, Log.unions_eq_count, ← Nat.add_assoc] at hgather
    exact hgather.symm
  persons := rfl
  merged := length_persons_run settings mentions trials
  standings := by
    refine (sum_values_tallyLabels _).trans ?_
    rw [List.length_map]
    rfl
  genders := by
    refine (sum_values_tallyLabels _).trans ?_
    rw [List.length_map]
    rfl
  variants := by rw [names_run, List.length_flatMap]
  persons_le_names := persons_le_names_run settings mentions trials
  unresolved := unresolvedTrials_run settings mentions trials
  multiTrial := by
    apply List.countP_congr
    intro p _
    simp only [decide_eq_true_eq]
    exact Person.one_lt_length_distinctTrials_iff
  transitions := Transition.length_ofPersons_le _

end Run

end Prosopography.Resolution
