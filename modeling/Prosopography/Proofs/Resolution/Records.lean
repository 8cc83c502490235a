import Prosopography.Proofs.Mention.Record
import Prosopography.Proofs.Person.Record
import Prosopography.Proofs.Resolution.Years
import Prosopography.Proofs.Store.Tables

/-!
# Records that survive being written

Mentions and trials that were read from records, and the persons that a run makes of them,
are read back from their own records as they were. What is reported of the persons can
therefore be found again from their records.
-/

namespace Prosopography

open Json

theorem Mention.Settled.roleIn {m : Mention} (h : m.Settled) (trial : String) :
    (m.roleIn trial).Settled := by
  rw [Mention.roleIn]
  cases hfind : m.roles.find? trial with
  | none => exact rfl
  | some r =>
      obtain ⟨e, he, rfl⟩ := Option.map_eq_some_iff.mp hfind
      exact h e (List.mem_of_find?_eq_some he)

namespace Person

/-- Every role of the map is that of an appearance. -/
theorem exists_of_mem_rolesOf {appearances : List Appearance} {e : String × Role}
    (h : e ∈ (rolesOf appearances).toList) : ∃ a ∈ appearances, a.role = e.2 := by
  obtain ⟨a, ha, rfl⟩ := (SortedMap.mem_of_mem_foldl_insert h).resolve_right List.not_mem_nil
  exact ⟨a, ha, rfl⟩

variable {mentions : MentionTable} {trials : TrialTable}

/-- Roles and years of a person come from mentions and trials. -/
theorem settled_ofCluster (hmentions : ∀ m ∈ mentions.toList, m.Settled)
    (htrials : ∀ t ∈ trials.toList, t.Settled) (id : PersonId) (c : Cluster) :
    (ofCluster mentions trials id c).Settled := by
  have happearances : ∀ a ∈ (ofCluster mentions trials id c).appearances, a.Settled := by
    intro a ha
    refine ⟨?_, fun year => isYear_of_mem_appearances htrials ha⟩
    obtain ⟨m, hm, -, trial, -, rfl⟩ := mem_appearances_ofCluster_iff.mp ha
    exact (hmentions m hm).roleIn trial
  refine ⟨happearances, ?_⟩
  intro e he
  obtain ⟨a, ha, hrole⟩ := exists_of_mem_rolesOf he
  exact hrole ▸ (happearances a ha).role

end Person

namespace Resolution

/-- What is written of mentions, trials and persons is read back as it was. -/
theorem records_read_back :
    (∀ name record m, Mention.ofRecord name record = .ok m →
      Mention.ofRecord m.name m.toJson = .ok m) ∧
    (∀ key row t, Trial.ofRecord key row = .ok t → Trial.ofRecord (some t.id) t.toJson = .ok t) ∧
    (∀ id date outcome, Trial.ofRecord (some id) (Trial.of id date outcome).toJson =
      .ok (Trial.of id date outcome)) ∧
    ∀ v w mentions trials, readMentions v = .ok mentions → readTrials w = .ok trials →
      ∀ s r, r = run s mentions.table trials.table →
        (∀ p ∈ r.persons, Person.shape p.toJson = .ok p) ∧
        ∃ persons, (r.persons.map Person.toJson).mapM Person.shape = .ok persons ∧
          Transition.ofPersons persons = r.transitions ∧
          SuperWitness.ofPersons s.superWitnessMin persons = r.superWitnesses := by
  refine ⟨?_, ?_, ?_, ?_⟩
  · exact fun _ _ _ h => Mention.ofRecord_toJson (Mention.settled_of_ofRecord h)
  · exact fun _ _ _ h => Trial.ofRecord_toJson (Trial.settled_of_ofRecord h)
  · exact fun id date outcome => Trial.ofRecord_toJson ⟨id, date, outcome, rfl⟩
  · rintro v w mentions trials hmentions htrials s r rfl
    have hpersons : ∀ p ∈ (run s mentions.table trials.table).persons,
        Person.shape p.toJson = .ok p := by
      intro p hp
      obtain ⟨c, -, id, rfl⟩ := exists_cluster_of_mem_persons hp
      apply Person.shape_toJson
      apply Person.settled_ofCluster
      · intro m hm
        obtain ⟨name, record, hread⟩ := exists_record_of_mem_mentions hmentions hm
        exact Mention.settled_of_ofRecord hread
      · exact fun t ht => settled_of_mem_trials htrials ht
    exact ⟨hpersons, _, Shape.list_arr hpersons, rfl, rfl⟩

/-- A record of a witness who was a sergeant in another trial. -/
def petitRecord : Json := obj [
  ("entity_type", " Witness"), ("trial_ids", strs ["T1", "T2"]), ("location", "Nancy "),
  ("roles_in_trials", obj [("T2", " Sergeant "), ("T1", "WITNESS")]), ("gender", "m")]

/-- A mention with two roles, one of them not among the usual ones, and a place. -/
def petitRead : Mention :=
  (((Mention.of "Jean Petit" .witness).withTrial "T1" .witness).withTrial "T2"
    (.other "Sergeant")).withLocation "Nancy " |>.withGender .male

/-- A trial whose date is a number. -/
def banishedRecord : Json := obj [("trial_date", int 1590), ("outcome", " banished ")]

/-- A dated trial with its outcome. -/
def banishedRead : Trial := .of "T1" (some "1590") (some " banished ")

/-- A mention, a trial and the run over them, each read back. -/
theorem records_read_back_petit :
    Mention.ofRecord "Jean Petit" petitRecord = .ok petitRead ∧
      Mention.ofRecord "Jean Petit" petitRead.toJson = .ok petitRead ∧
      Trial.ofRecord (some "T1") banishedRecord = .ok banishedRead ∧
      Trial.ofRecord (some "T1") banishedRead.toJson = .ok banishedRead ∧
      readMentions (obj [("Jean Petit", petitRecord)]) = .ok ⟨.ofPuts [petitRead], []⟩ ∧
      readTrials (obj [("T1", banishedRecord)]) = .ok ⟨.ofAdds [banishedRead], []⟩ ∧
      ∃ r persons, r = run .standard (.ofPuts [petitRead]) (.ofAdds [banishedRead]) ∧
        r.persons.map (·.roles.toList) = [[("T1", .witness), ("T2", .other "Sergeant")]] ∧
        (r.persons.map Person.toJson).mapM Person.shape = .ok persons ∧
        Transition.ofPersons persons = r.transitions ∧
        SuperWitness.ofPersons Settings.standard.superWitnessMin persons = r.superWitnesses := by
  obtain ⟨hmention, htrial, -, hrun⟩ := records_read_back
  have hread : Mention.ofRecord "Jean Petit" petitRecord = .ok petitRead := rfl
  have hbanished : Trial.ofRecord (some "T1") banishedRecord = .ok banishedRead := rfl
  have hmentions : readMentions (obj [("Jean Petit", petitRecord)]) =
      .ok ⟨.ofPuts [petitRead], []⟩ := rfl
  have htrials : readTrials (obj [("T1", banishedRecord)]) = .ok ⟨.ofAdds [banishedRead], []⟩ := rfl
  obtain ⟨-, persons, hpersons, htransitions, hsuper⟩ :=
    hrun _ _ _ _ hmentions htrials .standard _ rfl
  exact ⟨hread, hmention _ _ _ hread, hbanished, htrial _ _ _ hbanished, hmentions, htrials, _,
    persons, rfl, by decide +kernel, hpersons, htransitions, hsuper⟩

end Resolution

end Prosopography
