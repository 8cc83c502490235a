import Prosopography.Proofs.Person.Appearances

/-!
# Verdicts

Whether a witness became accused is read off the last appearance in every trial. The outcome
takes all appearances into account, and of the trials in which a person was accused under any
name it is the first one in the table that has an outcome.
-/

namespace Prosopography

/-- The outcome among some trials is that of the first row that has one. -/
theorem TrialTable.outcomeAmong_eq_some_iff {trials : TrialTable} {ids : List String}
    {o : String} :
    trials.outcomeAmong ids = some o ↔ ∃ before row after,
      trials.toList = before ++ row :: after ∧ row.id ∈ ids ∧ row.outcome = some o ∧
        ∀ r ∈ before, r.id ∈ ids → r.outcome = none := by
  rw [outcomeAmong, ← List.head?_filterMap, List.filterMap_filter, List.head?_filterMap,
    List.findSome?_eq_some_iff]
  simp [Option.ite_none_right_eq_some, and_assoc]

namespace Person

/-- A person is accused in a trial under some name. -/
def AccusedIn (p : Person) (trial : String) : Prop :=
  ∃ a ∈ p.appearances, a.trial = trial ∧ a.role = .accused

/-- What counts of several appearances in a trial is the last one: in one trial it is that of a
witness, in another one that of an accused. -/
def Turned (p : Person) : Prop :=
  ∃ t u, t ≠ u ∧ (∃ a, p.LastIn t a ∧ a.role = .witness) ∧ ∃ a, p.LastIn u a ∧ a.role = .accused

/-- Of the trials in which a person is accused, the first one in the table that has an outcome has
this one. -/
def Sentenced (p : Person) (trials : TrialTable) (o : String) : Prop :=
  ∃ before row after, trials.toList = before ++ row :: after ∧ p.AccusedIn row.id ∧
    row.outcome = some o ∧ ∀ r ∈ before, p.AccusedIn r.id → r.outcome = none

/-- The flag and the outcome of a person are those of its appearances. -/
structure Judged (p : Person) (trials : TrialTable) : Prop where
  flag : p.witnessToAccused = true ↔ p.Turned
  outcome : ∀ o, p.outcome = some o ↔ p.standing = .accused ∧ p.Sentenced trials o

/-- A trial has one last appearance of a person. -/
theorem LastIn.unique {p : Person} {t : String} {a b : Appearance} (ha : p.LastIn t a)
    (hb : p.LastIn t b) : a = b :=
  Option.some.inj ((lastIn_iff.mp ha).symm.trans (lastIn_iff.mp hb))

variable {mentions : MentionTable} {trials : TrialTable} {id : PersonId} {c : Cluster}

theorem mem_values_roles_ofCluster_iff {r : Role} :
    r ∈ (ofCluster mentions trials id c).roles.values ↔
      ∃ t a, (ofCluster mentions trials id c).LastIn t a ∧ a.role = r := by
  simp only [← mem_roles_ofCluster_iff, SortedMap.values, SortedMap.toList, List.mem_map,
    Prod.exists, exists_eq_right]

/-- A trial keeps one role, so the two that are asked for are not the same one. -/
theorem witnessToAccused_ofCluster_iff :
    (ofCluster mentions trials id c).witnessToAccused = true ↔
      (ofCluster mentions trials id c).Turned := by
  have hflag : (ofCluster mentions trials id c).witnessToAccused =
      ((ofCluster mentions trials id c).roles.values.contains .witness &&
        (ofCluster mentions trials id c).roles.values.contains .accused) := rfl
  rw [hflag, Bool.and_eq_true, List.contains_iff_mem, List.contains_iff_mem,
    mem_values_roles_ofCluster_iff, mem_values_roles_ofCluster_iff]
  constructor
  · rintro ⟨⟨t, a, ha, hwitness⟩, u, b, hb, haccused⟩
    refine ⟨t, u, ?_, ⟨a, ha, hwitness⟩, b, hb, haccused⟩
    rintro rfl
    rw [ha.unique hb, haccused] at hwitness
    cases hwitness
  · rintro ⟨t, u, -, hwitness, haccused⟩
    exact ⟨⟨t, hwitness⟩, u, haccused⟩

theorem mem_accusedTrials_iff {p : Person} {t : String} :
    t ∈ (p.appearances.filter (·.role == .accused)).map (·.trial) ↔ p.AccusedIn t := by
  simp only [AccusedIn, List.mem_map, List.mem_filter, beq_iff_eq, and_assoc, and_comm]

/-- Only the accused have an outcome, the first of the trials they were accused in. -/
theorem outcome_ofCluster_eq_some_iff {o : String} :
    (ofCluster mentions trials id c).outcome = some o ↔
      (ofCluster mentions trials id c).standing = .accused ∧
        (ofCluster mentions trials id c).Sentenced trials o := by
  have houtcome : (ofCluster mentions trials id c).outcome =
      outcomeOf trials (ofCluster mentions trials id c).standing
        (ofCluster mentions trials id c).appearances := rfl
  rw [houtcome, outcomeOf, Option.ite_none_right_eq_some, TrialTable.outcomeAmong_eq_some_iff]
  simp only [mem_accusedTrials_iff, Sentenced]

/-- Later names may overrule an accusation where the flag is concerned, but not the outcome. -/
theorem judged_ofCluster : (ofCluster mentions trials id c).Judged trials where
  flag := witnessToAccused_ofCluster_iff
  outcome _ := outcome_ofCluster_eq_some_iff

-- Under the second name the accused is just a witness, and that decides his role but not the
-- outcome.
example :
    let p := ofCluster (.ofPuts [(Mention.of "Jean" .accused).withTrial "T1" .accused,
        (Mention.of "Jehan" .witness).withTrial "T1" .witness])
      (.ofAdds [.of "T1" none (some "exile")]) (.sequential "E" 5 1)
      ⟨"jean", ["Jean", "Jehan"], .empty⟩
    p.roles.toList = [("T1", .witness)] ∧ p.outcome = some "exile" := by decide +kernel

end Person

end Prosopography
