import Prosopography.Proofs.Resolution.Identifiers

/-!
# Identifiers sort like their numbers

Identifiers of numbers within the width are ordered as the numbers are, so sorting the
identifiers of a run, or its table of persons, as text keeps the order of enumeration.
Accepted settings may have a width for which there are no identifiers to sort.
-/

namespace Prosopography

section SortedByText

variable {α : Type} {text : α → String}

/-- A list sorted by texts, byte by byte. -/
def sortedByText (text : α → String) (l : List α) : List α :=
  l.mergeSort fun a b => decide (Text.bytes (text a) ≤ Text.bytes (text b))

/-- Sorting by text puts the bytes in order. -/
theorem pairwise_sortedByText (l : List α) :
    (sortedByText text l).Pairwise fun a b => Text.bytes (text a) ≤ Text.bytes (text b) := by
  have htrans : ∀ a b c : α, decide (Text.bytes (text a) ≤ Text.bytes (text b)) = true →
      decide (Text.bytes (text b) ≤ Text.bytes (text c)) = true →
        decide (Text.bytes (text a) ≤ Text.bytes (text c)) = true := by
    intro a b c hab hbc
    exact decide_eq_true (Std.le_trans (of_decide_eq_true hab) (of_decide_eq_true hbc))
  have htotal : ∀ a b : α, (decide (Text.bytes (text a) ≤ Text.bytes (text b)) ||
      decide (Text.bytes (text b) ≤ Text.bytes (text a))) = true := by
    intro a b
    simpa using Std.le_total
  exact (List.pairwise_mergeSort htrans htotal l).imp of_decide_eq_true

/-- However a list is shuffled, sorting restores it if its texts ascend. -/
theorem sortedByText_of_perm {l shuffled : List α}
    (h : l.Pairwise fun a b => Text.bytes (text a) < Text.bytes (text b))
    (hperm : shuffled.Perm l) : sortedByText text shuffled = l := by
  have hsame : (sortedByText text shuffled).Perm l := (List.mergeSort_perm ..).trans hperm
  have htexts : (l.map fun a => Text.bytes (text a)).Nodup :=
    List.pairwise_map.mpr (h.imp Std.ne_of_lt)
  apply List.Perm.eq_of_pairwise ?_ (pairwise_sortedByText shuffled) (h.imp Std.le_of_lt) hsame
  intro a b ha hb hab hba
  exact List.inj_on_of_nodup_map htexts (hsame.mem_iff.mp ha) hb (Std.le_antisymm hab hba)

end SortedByText

namespace Resolution

/-- Persons are numbered from one, and sorting by identifiers keeps them in their order. -/
structure SortsById (r : Resolution) (stem : String) (width : Nat) : Prop where
  numbered : r.persons.map (fun p => some p.id) =
    (List.range r.persons.length).map fun i => PersonId.sequential? stem width (i + 1)
  ids : ∀ shuffled, shuffled.Perm (r.persons.map (·.id)) →
    sortedByText PersonId.text shuffled = r.persons.map (·.id)
  /-- The table of persons is keyed by their identifiers and sorted by its keys. -/
  saved : ∀ i : Inputs, ∃ tables members, r.tables i = .ok tables ∧
    Artifact.ofJson "canonical_entities.json" (.obj members) ∈ tables ∧
      members = r.persons.map (fun p => (p.id.text, p.toJson)) ∧
      ∀ shuffled, shuffled.Perm members → sortedByText Prod.fst shuffled = members

/-- Numbers within the width have identifiers in their order, and a run with no more persons
sorts by them. -/
structure SortsLikeNumbers (stem : String) (width : Nat) : Prop where
  lt_of_lt : ∀ m n, m < n → n < 10 ^ width → ∃ a b,
    PersonId.sequential? stem width m = some a ∧ PersonId.sequential? stem width n = some b ∧
      a < b
  runs : ∀ (settings : Settings) (mentions : MentionTable) (trials : TrialTable), ∃ r,
    run? { settings with idStem := stem, idWidth := width } mentions trials = some r ∧
      (r.persons.length < 10 ^ width → r.SortsById stem width)

section Run

variable (settings : Settings) (mentions : MentionTable) (trials : TrialTable)

/-- As long as the numbers fit the width, the identifiers ascend. -/
theorem pairwise_ids_run
    (h : (run settings mentions trials).persons.length < 10 ^ settings.idWidth) :
    ((run settings mentions trials).persons.map (·.id)).Pairwise (· < ·) := by
  rw [ids_run, List.pairwise_map]
  apply List.pairwise_lt_range.imp_of_mem
  intro i j _ hj hij
  apply PersonId.sequential_lt_sequential (Nat.succ_lt_succ hij)
  exact Nat.lt_of_le_of_lt (List.mem_range.mp hj) h

/-- As long as the numbers fit the width, identifiers sort like numbers. -/
theorem sortsById_run (hwidth : settings.idWidth ≤ PersonId.maxWidth)
    (h : (run settings mentions trials).persons.length < 10 ^ settings.idWidth) :
    (run settings mentions trials).SortsById settings.idStem settings.idWidth := by
  have hids := pairwise_ids_run settings mentions trials h
  refine ⟨?_, fun _ => sortedByText_of_perm hids, ?_⟩
  · calc
      (run settings mentions trials).persons.map (fun p => some p.id) =
          ((run settings mentions trials).persons.map (·.id)).map some := List.map_map.symm
      _ = (List.range (run settings mentions trials).persons.length).map fun i =>
          PersonId.sequential? settings.idStem settings.idWidth (i + 1) := by
        rw [ids_run, List.map_map]
        simp [PersonId.sequential?, hwidth]
  · intro i
    refine ⟨_, _, tables_eq _ i, List.mem_cons_self, rfl, fun _ => sortedByText_of_perm ?_⟩
    rw [List.pairwise_map] at hids ⊢
    exact hids

end Run

/-- Identifiers sort like their numbers exactly for the widths that keep to the limit. -/
theorem sortsLikeNumbers_iff (stem : String) (width : Nat) :
    SortsLikeNumbers stem width ↔ width ≤ PersonId.maxWidth := by
  constructor
  · intro h
    by_contra hwidth
    have hone : 1 < 10 ^ width := Nat.one_lt_pow (by omega) (by decide)
    obtain ⟨a, _, ha, -⟩ := h.lt_of_lt 0 1 Nat.one_pos hone
    simp [PersonId.sequential?, hwidth] at ha
  · intro hwidth
    refine ⟨?_, ?_⟩
    · intro m n hmn hn
      exact ⟨_, _, if_pos hwidth, if_pos hwidth, PersonId.sequential_lt_sequential hmn hn⟩
    · intro settings mentions trials
      refine ⟨_, run?_eq_some_iff.mpr ⟨.inl hwidth, rfl⟩, ?_⟩
      exact sortsById_run _ mentions trials hwidth

/-- Accepted settings whose width is too large give the first two numbers no identifiers. -/
theorem not_sorted_tooWide :
    tooWide.validate.isOk = true ∧ 2 < 10 ^ tooWide.idWidth ∧
      ¬ ∃ a b, PersonId.sequential? tooWide.idStem tooWide.idWidth 1 = some a ∧
        PersonId.sequential? tooWide.idStem tooWide.idWidth 2 = some b ∧ a < b := by
  have hwidth : ¬ tooWide.idWidth ≤ PersonId.maxWidth := by decide
  refine ⟨by decide +kernel, ?_, ?_⟩
  · exact Nat.lt_of_lt_of_le (by decide : 2 < 10 ^ 1) (Nat.pow_le_pow_right (by decide) (by decide))
  · rintro ⟨a, _, ha, -⟩
    simp [PersonId.sequential?, hwidth] at ha

end Resolution

end Prosopography
