import Prosopography.Proofs.Resolution.Transitions
import Prosopography.Proofs.Trial.Record

/-!
# Years of a run

The years of appearances are those of trials, and however a trial was dated its year is one of
the calendar. The years between two of them fit into the 32 bits they are counted with.
-/

namespace Prosopography

/-- No two years of the calendar are further apart than a signed number of 32 bits can say. -/
theorem Trial.IsYear.sub_range {first last : Int} (hfirst : IsYear first) (hlast : IsYear last) :
    -2 ^ 31 ≤ last - first ∧ last - first < 2 ^ 31 := by
  simp only [IsYear, firstYear, lastYear] at hfirst hlast
  omega

/-- Within 32 bits the count of years does not wrap. -/
theorem Transition.yearSpan_eq {first last : Int}
    (h : -2 ^ 31 ≤ last - first ∧ last - first < 2 ^ 31) : yearSpan first last = last - first := by
  have hsize : UInt32.size = 4294967296 := rfl
  apply Int.bmod_eq_of_le
  · omega
  · omega

namespace Person

variable {mentions : MentionTable} {trials : TrialTable} {id : PersonId} {c : Cluster}

/-- Every dated appearance has a year of the calendar. -/
theorem isYear_of_mem_appearances (htrials : ∀ row ∈ trials.toList, row.Settled) {a : Appearance}
    (ha : a ∈ (ofCluster mentions trials id c).appearances) {year : Int}
    (hyear : a.year = some year) : Trial.IsYear year := by
  obtain ⟨m, -, -, trial, -, rfl⟩ := mem_appearances_ofCluster_iff.mp ha
  obtain ⟨row, hrow, hyear⟩ := Option.bind_eq_some_iff.mp hyear
  exact (htrials row ((trials.get?_eq_some_iff trial row).mp hrow).1).isYear hyear

theorem BeginsAs.isYear {role : Role} {trial : String} {year : Int}
    (h : (ofCluster mentions trials id c).BeginsAs role trial year)
    (htrials : ∀ row ∈ trials.toList, row.Settled) : Trial.IsYear year := by
  obtain ⟨a, ha, -, hyear⟩ := h.least.1
  exact isYear_of_mem_appearances htrials ha hyear

end Person

namespace Resolution

/-- Where trials were made from texts or read from records, the years of a transition are as far
apart as it says, which is no more than 32 bits can count. -/
theorem yearsBetween_run (settings : Settings) (mentions : MentionTable) {trials : TrialTable}
    (htrials : ∀ row ∈ trials.toList, (∃ id date outcome, row = Trial.of id date outcome) ∨
      ∃ key record, Trial.ofRecord key record = .ok row) :
    ∀ t ∈ (run settings mentions trials).transitions,
      t.yearsBetween = t.accusedYear - t.witnessYear ∧
        -2 ^ 31 ≤ t.accusedYear - t.witnessYear ∧ t.accusedYear - t.witnessYear < 2 ^ 31 := by
  have hsettled : ∀ row ∈ trials.toList, row.Settled := by
    intro row hrow
    rcases htrials row hrow with hmade | ⟨key, record, hread⟩
    · exact hmade
    · exact Trial.settled_of_ofRecord hread
  intro t ht
  obtain ⟨p, hp, ht⟩ := List.mem_filterMap.mp ht
  obtain ⟨c, -, id, rfl⟩ := exists_cluster_of_mem_persons hp
  have hreports := Transition.reports_of_ofPerson ht
  have hrange := (hreports.witness.isYear hsettled).sub_range (hreports.accused.isYear hsettled)
  refine ⟨?_, hrange⟩
  rw [Transition.yearsBetween_of_ofPerson ht]
  exact Transition.yearSpan_eq hrange

/-- A trial on the first day of the calendar. -/
def firstTrial : Trial := .of "T2" (some "-262143-01-01") none

/-- The last day of the calendar and the first one. -/
def calendarEnds : TrialTable := .ofAdds [.of "T1" (some "+262142-12-31") none, firstTrial]

/-- The first and the last year of the calendar, which are as far apart as years can be. -/
theorem yearsBetween_run_calendarEnds :
    (∀ row ∈ calendarEnds.toList, (∃ id date outcome, row = Trial.of id date outcome) ∨
      ∃ key record, Trial.ofRecord key record = .ok row) ∧
    (run .standard petitAccused calendarEnds).transitions.map (·.yearsBetween) = [-524285] ∧
    ∀ t ∈ (run .standard petitAccused calendarEnds).transitions,
      t.yearsBetween = t.accusedYear - t.witnessYear ∧
        -2 ^ 31 ≤ t.accusedYear - t.witnessYear ∧ t.accusedYear - t.witnessYear < 2 ^ 31 := by
  have hread : Trial.ofRecord (some "T2") (.obj [("trial_date", "-262143-01-01")]) =
      .ok firstTrial := by rfl
  have hrows : ∀ row ∈ calendarEnds.toList, (∃ id date outcome, row = Trial.of id date outcome) ∨
      ∃ key record, Trial.ofRecord key record = .ok row := by
    intro row hrow
    rcases List.mem_cons.mp hrow with rfl | hrow
    · exact .inl ⟨_, _, _, rfl⟩
    · rw [List.mem_singleton.mp hrow]
      exact .inr ⟨_, _, hread⟩
  exact ⟨hrows, by decide +kernel, yearsBetween_run .standard petitAccused hrows⟩

end Resolution

end Prosopography
