import Prosopography.Proofs.Collection.SortedMap
import Prosopography.Proofs.Person.Id
import Prosopography.Proofs.Resolution.Partition
import Prosopography.Proofs.Store.Rendering

/-!
# Identifiers are keys

No two persons of a run share an identifier, whatever the stem and the width, so a
table of persons by identifier keeps them apart and a recorded name leads to the one
person it belongs to. Accepted settings do not always leave identifiers for the persons.
-/

namespace Prosopography

namespace Resolution

open Cluster

/-- The saved table of persons has one member for each person, under its identifier. -/
def SavesPersonsById (r : Resolution) : Prop :=
  ∀ i : Inputs, ∃ tables members, r.tables i = .ok tables ∧
    Artifact.ofJson "canonical_entities.json" (.obj members) ∈ tables ∧
      members.length = r.persons.length ∧ (members.map (·.1)).Nodup ∧
        ∀ p ∈ r.persons, (Json.obj members).field? p.id.text = some p.toJson

/-- Persons are found by their identifiers, and recorded names by the persons they belong to. -/
structure Keyed (r : Resolution) (mentions : MentionTable) : Prop where
  distinct : (r.persons.map (·.id)).Nodup
  saved : r.SavesPersonsById
  owner : ∀ v p, r.personOf? v = some p ↔
    p ∈ r.persons ∧ v ∈ p.variants ∧ ∀ q ∈ r.persons, v ∈ q.variants → q = p
  unowned : ∀ v, r.personOf? v = none ↔
    (∀ m ∈ mentions.toList, m.name ≠ v) ∨ Name.key v = ""

section Lookup

variable {r : Resolution} (hids : (r.persons.map (·.id)).Nodup)

include hids in
/-- Saved persons stand under their identifiers, each once. -/
theorem savesPersonsById : r.SavesPersonsById := by
  intro i
  have hkeys : ((r.persons.map fun p => (p.id.text, p.toJson)).map (·.1)).Nodup := by
    have htext : Function.Injective PersonId.text := fun a b h => congrArg PersonId.mk h
    simpa [Function.comp_def] using hids.map htext
  refine ⟨_, _, r.tables_eq i, List.mem_cons_self, List.length_map _, hkeys, ?_⟩
  intro p hp
  have hfound := (find?_key_eq_some_iff hkeys).mpr ⟨List.mem_map_of_mem hp, rfl⟩
  rw [Json.field?, hfound, Option.map_some]

variable (hassigned : r.attribution.toList =
    r.persons.flatMap fun p => p.variants.map fun v => (v, p.id))
include hassigned

/-- Where each variant is assigned to its person, a name has the identifier of its person. -/
theorem idOf?_eq_some_iff {v : String} {id : PersonId} :
    r.attribution.idOf? v = some id ↔ ∃ p ∈ r.persons, v ∈ p.variants ∧ p.id = id := by
  have hentry : (v, id) ∈ r.attribution.toList ↔
      ∃ p ∈ r.persons, v ∈ p.variants ∧ p.id = id := by
    simp [hassigned]
  rw [← hentry, Attribution.idOf?, Option.map_eq_some_iff]
  constructor
  · rintro ⟨e, he, rfl⟩
    obtain ⟨hmem, rfl⟩ := (IndexedTable.get?_eq_some_iff ..).mp he
    exact hmem
  · intro he
    exact ⟨(v, id), (IndexedTable.get?_eq_some_iff ..).mpr ⟨he, rfl⟩, rfl⟩

include hids

/-- A name leads to the person of whom it is a variant. -/
theorem personOf?_eq_some_iff {v : String} {p : Person} :
    r.personOf? v = some p ↔ p ∈ r.persons ∧ v ∈ p.variants := by
  simp only [personOf?, Option.bind_eq_some_iff, idOf?_eq_some_iff hassigned,
    find?_key_eq_some_iff hids]
  constructor
  · rintro ⟨_, ⟨q, hq, hv, rfl⟩, hp, hid⟩
    rw [List.inj_on_of_nodup_map hids hp hq hid]
    exact ⟨hq, hv⟩
  · rintro ⟨hp, hv⟩
    exact ⟨p.id, ⟨p, hp, hv, rfl⟩, hp, rfl⟩

end Lookup

section Run

variable (settings : Settings) (mentions : MentionTable) (trials : TrialTable)

/-- No two persons have the same identifier. -/
theorem nodup_ids_run : ((run settings mentions trials).persons.map (·.id)).Nodup := by
  rw [ids_run]
  apply List.nodup_range.map
  intro i j h
  exact Nat.succ_injective (PersonId.sequential_injective _ _ h)

variable {settings mentions trials}

theorem id_eq_iff {p q : Person} (hp : p ∈ (run settings mentions trials).persons)
    (hq : q ∈ (run settings mentions trials).persons) : q.id = p.id ↔ q = p :=
  ⟨List.inj_on_of_nodup_map (nodup_ids_run settings mentions trials) hq hp, congrArg Person.id⟩

theorem personOf?_run_eq_some_iff {v : String} {p : Person} :
    (run settings mentions trials).personOf? v = some p ↔
      p ∈ (run settings mentions trials).persons ∧ v ∈ p.variants :=
  personOf?_eq_some_iff (nodup_ids_run settings mentions trials)
    (attribution_run settings mentions trials)

theorem personOf?_run_eq_none_iff {v : String} :
    (run settings mentions trials).personOf? v = none ↔
      (∀ m ∈ mentions.toList, m.name ≠ v) ∨ Name.key v = "" := by
  have hnone : (run settings mentions trials).personOf? v = none ↔ v ∉ keyedNames mentions := by
    rw [← (variants_perm settings mentions trials).mem_iff, List.mem_flatMap,
      Option.eq_none_iff_forall_ne_some, not_exists]
    exact forall_congr' fun p => not_congr personOf?_run_eq_some_iff
  rw [hnone, mem_keyedNames, not_and_or, not_exists, not_not]
  exact or_congr_left (forall_congr' fun m => not_and)

/-- Identifiers are keys of the persons of a run. -/
theorem keyed_run : (run settings mentions trials).Keyed mentions where
  distinct := nodup_ids_run settings mentions trials
  saved := savesPersonsById (nodup_ids_run settings mentions trials)
  owner v p := by
    constructor
    · intro h
      obtain ⟨hp, hv⟩ := personOf?_run_eq_some_iff.mp h
      refine ⟨hp, hv, ?_⟩
      intro q hq hvq
      exact Option.some.inj ((personOf?_run_eq_some_iff.mpr ⟨hq, hvq⟩).symm.trans h)
    · rintro ⟨hp, hv, -⟩
      exact personOf?_run_eq_some_iff.mpr ⟨hp, hv⟩
  unowned _ := personOf?_run_eq_none_iff

/-- A run has a result exactly if its identifiers can be written. -/
theorem run?_eq_some_iff {r : Resolution} :
    run? settings mentions trials = some r ↔
      (settings.idWidth ≤ PersonId.maxWidth ∨
        ∀ m ∈ mentions.toList, Name.key m.name = "") ∧ run settings mentions trials = r := by
  rw [← canNumber_iff, run?, Option.ite_none_right_eq_some, Option.some.injEq]

variable (settings mentions trials)

/-- Identifiers are keys exactly where they are not too wide or not needed. -/
theorem exists_keyed_iff :
    (∃ r, run? settings mentions trials = some r ∧ r.Keyed mentions) ↔
      settings.idWidth ≤ PersonId.maxWidth ∨ ∀ m ∈ mentions.toList, Name.key m.name = "" := by
  simp only [run?_eq_some_iff]
  constructor
  · rintro ⟨r, ⟨hnumber, -⟩, -⟩
    exact hnumber
  · intro hnumber
    exact ⟨_, ⟨hnumber, rfl⟩, keyed_run⟩

end Run

/-- A width that is accepted, although no identifier can be written in it. -/
theorem not_keyed_tooWide :
    tooWide.validate.isOk = true ∧
      ¬ ∃ r, run? tooWide onePetit .empty = some r ∧ r.Keyed onePetit := by
  refine ⟨by decide +kernel, ?_⟩
  rintro ⟨r, hr, -⟩
  obtain ⟨hwidth | hkeys, -⟩ := run?_eq_some_iff.mp hr
  · exact absurd hwidth (by decide)
  · have hkey : Name.key "Jean Petit" ≠ "" := by decide +kernel
    exact hkey (hkeys (.of "Jean Petit" .witness) (List.mem_singleton_self _))

end Resolution

end Prosopography
