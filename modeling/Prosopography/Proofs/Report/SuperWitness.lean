import Prosopography.Proofs.Person.Appearances
import Prosopography.Report.SuperWitness
import Mathlib.Data.Finset.Card
import Mathlib.Data.List.Forall2

/-!
# The list of super-witnesses

The trials of a super-witness are those in which the person gave evidence, each once and first
seen first. The list has one row for each person with enough of them, most trials first, and
between persons with equally many it keeps the order of the persons.
-/

namespace Prosopography

/-- The trials of a person's appearances as a witness, with repetitions. -/
def Person.testimonies (p : Person) : List String :=
  (p.appearances.filter (·.role = .witness)).map (·.trial)

theorem Person.mem_testimonies {p : Person} {t : String} :
    t ∈ p.testimonies ↔ ∃ a ∈ p.appearances, a.role = .witness ∧ a.trial = t := by
  simp only [testimonies, List.mem_map, List.mem_filter, decide_eq_true_eq, and_assoc]

/-- In how many trials a person gave evidence. -/
def Person.witnessed (p : Person) : Nat := p.testimonies.toFinset.card

namespace SuperWitness

/-- What the row of a super-witness tells of a person. -/
structure Describes (w : SuperWitness) (p : Person) : Prop where
  id : w.id = p.id
  key : w.key = p.key
  trial_iff : ∀ t, t ∈ w.trials ↔ ∃ a ∈ p.appearances, a.role = .witness ∧ a.trial = t
  firstSeen : w.trials.Pairwise fun t u => p.testimonies.idxOf t < p.testimonies.idxOf u
  count : w.count = p.witnessed
  year_iff : ∀ y, y ∈ w.years.toList ↔ ∃ a ∈ p.appearances, a.role = .witness ∧ a.year = some y
  ascending : w.years.toList.Pairwise (· < ·)

/-- Rows for the persons with enough trials and for nobody else, most trials first. Persons with
equally many trials keep their order. -/
structure Lists (least : Nat) (persons : List Person) (rows : List SuperWitness) : Prop where
  ranking : ∃ ranking : List Person, List.Forall₂ Describes rows ranking ∧
    ranking.Perm (persons.filter fun p => least ≤ p.witnessed) ∧
    ∀ n, ranking.filter (·.witnessed = n) =
      persons.filter fun p => p.witnessed = n ∧ least ≤ p.witnessed
  descending : rows.Pairwise fun v w => w.count ≤ v.count

/-- A person has a row exactly if they were a witness in enough trials. -/
theorem mem_ofPersons {least : Nat} {persons : List Person} {w : SuperWitness} :
    w ∈ ofPersons least persons ↔
      ∃ p ∈ persons, least ≤ (witnessTrials p).length ∧ ofPerson p = w := by
  simp [ofPersons, and_assoc]

theorem witnessTrials_eq (p : Person) : witnessTrials p = p.testimonies.eraseDups := by
  rw [witnessTrials, Person.firstSeen_eq_eraseDups]
  rfl

theorem length_witnessTrials (p : Person) : (witnessTrials p).length = p.witnessed := by
  rw [witnessTrials_eq, Person.witnessed, ← List.toFinset_card_of_nodup (nodup_eraseDups _)]
  congr 1
  ext t
  simp

/-- A row describes its person. -/
theorem describes_ofPerson (p : Person) : (ofPerson p).Describes p where
  id := rfl
  key := rfl
  trial_iff t := by
    change t ∈ witnessTrials p ↔ _
    rw [witnessTrials_eq, List.mem_eraseDups, Person.mem_testimonies]
  firstSeen := by
    change (witnessTrials p).Pairwise _
    rw [witnessTrials_eq]
    exact pairwise_idxOf_eraseDups p.testimonies
  count := length_witnessTrials p
  year_iff y := by
    simp [ofPerson, Person.appearancesAs, and_assoc]
  ascending := by
    apply (ofPerson p).years.sorted.imp
    intro y z h
    exact Int.compare_eq_lt.mp h

section Ranking

variable {α : Type} (number : α → Nat)

theorem descending_trans (a b c : α) (hab : decide (number b ≤ number a) = true)
    (hbc : decide (number c ≤ number b) = true) : decide (number c ≤ number a) = true := by
  rw [decide_eq_true_iff] at hab hbc ⊢
  omega

theorem descending_total (a b : α) :
    (decide (number b ≤ number a) || decide (number a ≤ number b)) = true := by
  rw [Bool.or_eq_true, decide_eq_true_iff, decide_eq_true_iff]
  omega

/-- Sorting by a number leaves the elements with one number in their order. -/
theorem filter_mergeSort (l : List α) (n : Nat) :
    (l.mergeSort fun a b => number b ≤ number a).filter (number · = n) =
      l.filter (number · = n) := by
  have hsublist : (l.filter (number · = n)).Sublist
      (l.mergeSort fun a b => number b ≤ number a) := by
    apply List.sublist_mergeSort (descending_trans number) (descending_total number)
    · rw [List.pairwise_filter]
      apply List.pairwise_of_forall
      intro a b ha hb
      rw [decide_eq_true_iff] at ha hb ⊢
      omega
    · exact List.filter_sublist
  have hfiltered := hsublist.filter (number · = n)
  rw [List.filter_filter] at hfiltered
  simp only [Bool.and_self] at hfiltered
  have hperm := (List.mergeSort_perm l fun a b => number b ≤ number a).filter (number · = n)
  exact (hfiltered.eq_of_length hperm.length_eq.symm).symm

end Ranking

/-- The rows are in descending order of their trials. -/
theorem descending_ofPersons (least : Nat) (persons : List Person) :
    (ofPersons least persons).Pairwise fun v w => w.count ≤ v.count := by
  have hsorted := List.pairwise_mergeSort (descending_trans count) (descending_total count)
    ((persons.filter fun p => least ≤ (witnessTrials p).length).map ofPerson)
  exact hsorted.imp of_decide_eq_true

/-- The rows are those of the persons with enough trials, sorted by the numbers of these. -/
theorem ofPersons_eq (least : Nat) (persons : List Person) :
    ofPersons least persons =
      ((persons.filter fun p => least ≤ p.witnessed).mergeSort
        fun p q => q.witnessed ≤ p.witnessed).map ofPerson := by
  rw [List.map_mergeSort (s := fun v w => w.count ≤ v.count), ofPersons]
  · simp only [length_witnessTrials]
  · intro p _ q _
    rw [(describes_ofPerson p).count, (describes_ofPerson q).count]

/-- One row for each person with enough trials, whatever the persons and the number of trials. -/
theorem lists_ofPersons (least : Nat) (persons : List Person) :
    Lists least persons (ofPersons least persons) where
  ranking := by
    refine ⟨_, ?_, List.mergeSort_perm _ fun p q => q.witnessed ≤ p.witnessed, fun n => ?_⟩
    · rw [ofPersons_eq, List.forall₂_map_left_iff, List.forall₂_same]
      intro p _
      exact describes_ofPerson p
    · rw [filter_mergeSort, List.filter_filter]
      simp only [Bool.decide_and]
  descending := descending_ofPersons least persons

end SuperWitness

end Prosopography
