import Prosopography.Proofs.Person.Attributes
import Prosopography.Proofs.Report.SuperWitness
import Prosopography.Proofs.Resolution.Identifiers
import Prosopography.Proofs.Resolution.Places

/-!
# Super-witnesses who became accused

The row of a super-witness reads an attribute where the person has a flag of its own. Both
say the same unless a mention affirms the attribute of a person who is not flagged.
-/

namespace Prosopography

namespace Resolution

variable (settings : Settings) (mentions : MentionTable) (trials : TrialTable)

variable {settings mentions trials} in
/-- A person has an attribute that a mention of a variant affirms. -/
theorem hasFlag_iff {p : Person} (hp : p ∈ (run settings mentions trials).persons) (k : String) :
    p.hasFlag k = true ↔
      (k = witnessToAccusedFlag ∧ p.witnessToAccused = true) ∨
        ∃ m ∈ mentions.toList, m.name ∈ p.variants ∧ m.Affirms k := by
  obtain ⟨c, -, id, rfl⟩ := exists_cluster_of_mem_persons hp
  rw [Person.hasFlag_ofCluster_iff]
  simp only [Person.mem_mentionsOf, and_assoc]
  rfl

/-- A super-witness became accused as its person did, unless the mentions of a person who is not
flagged say so themselves. -/
theorem becameAccused_eq_iff :
    ∀ w ∈ (run settings mentions trials).superWitnesses,
      ∃ p ∈ (run settings mentions trials).persons,
        (∀ q ∈ (run settings mentions trials).persons, q.id = w.id ↔ q = p) ∧
          (w.becameAccused = p.witnessToAccused ↔
            p.witnessToAccused = true ∨ ∀ m ∈ mentions.toList, m.name ∈ p.variants →
              ¬ m.Affirms witnessToAccusedFlag) := by
  intro w hw
  obtain ⟨p, hp, -, rfl⟩ := SuperWitness.mem_ofPersons.mp hw
  refine ⟨p, hp, fun q hq => id_eq_iff hp hq, ?_⟩
  have hflag := hasFlag_iff hp witnessToAccusedFlag
  change p.hasFlag witnessToAccusedFlag = p.witnessToAccused ↔ _
  cases hflagged : p.witnessToAccused with
  | true => simp [hflag, hflagged]
  | false => simp [← Bool.not_eq_true, hflag, hflagged]

/-- A witness in three trials. -/
def petitThrice : Mention :=
  (((Mention.of "Jean Petit" .witness).withTrial "T1" .witness).withTrial "T2" .witness).withTrial
    "T3" .witness

/-- The table of that witness. -/
def petitAlone : MentionTable := .ofPuts [petitThrice]

/-- A row whose column is the flag of its person. -/
theorem becameAccused_eq_petitAlone :
    ∃ w ∈ (run .standard petitAlone .empty).superWitnesses,
      ∃ p ∈ (run .standard petitAlone .empty).persons,
        (∀ q ∈ (run .standard petitAlone .empty).persons, q.id = w.id ↔ q = p) ∧
          w.becameAccused = p.witnessToAccused := by
  have hrow : (run .standard petitAlone .empty).superWitnesses.length = 1 := by
    decide +kernel
  obtain ⟨w, hw⟩ := List.exists_mem_of_length_pos (by rw [hrow]; exact Nat.one_pos)
  obtain ⟨p, hp, hid, hiff⟩ := becameAccused_eq_iff .standard petitAlone .empty w hw
  have hnone : ∀ m ∈ petitAlone.toList,
      ¬ m.Affirms witnessToAccusedFlag := by
    intro m hm
    obtain rfl := List.mem_singleton.mp hm
    rintro ⟨v, hv, -⟩
    simp [petitThrice, Mention.withTrial, Mention.of] at hv
  exact ⟨w, hw, p, hp, hid, hiff.mpr (.inr fun m hm _ => hnone m hm)⟩

/-- A witness whose record says that he became accused, which he did in no trial. -/
def petitAffirmed : MentionTable :=
  .ofPuts [petitThrice.withAttribute witnessToAccusedFlag (.bool true)]

/-- A row whose column is not the flag of its person, but a recorded attribute. -/
theorem not_becameAccused_eq_petitAffirmed :
    ¬ ∀ w ∈ (run .standard petitAffirmed .empty).superWitnesses,
      ∀ p ∈ (run .standard petitAffirmed .empty).persons,
        p.id = w.id → w.becameAccused = p.witnessToAccused := by
  decide +kernel

end Resolution

end Prosopography
