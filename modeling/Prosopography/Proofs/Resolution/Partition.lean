import Prosopography.Proofs.Collection.IndexedTable
import Prosopography.Proofs.Resolution.Clusters
import Mathlib.Data.List.Nodup

/-!
# Every name has one person

A run that has identifiers for its persons parts the names of a table: a name with a
key is a variant of one person, and the names without a key are set aside. Accepted
settings do not always leave identifiers for the persons, and then there is no run.
-/

namespace Prosopography.Resolution

open Cluster

/-- Names with a key are parted among persons, the others set aside. -/
structure Partitions (r : Resolution) (mentions : MentionTable) : Prop where
  owner : ∀ m ∈ mentions.toList, Name.key m.name ≠ "" →
    ∃! i : Fin r.persons.length, m.name ∈ (r.persons.get i).variants
  once : ∀ p ∈ r.persons, p.variants.Nodup
  recorded : ∀ p ∈ r.persons, ∀ v ∈ p.variants,
    Name.key v ≠ "" ∧ ∃ m ∈ mentions.toList, m.name = v
  inhabited : ∀ p ∈ r.persons, p.variants ≠ []
  setAside : r.manualReview =
    (mentions.toList.map (·.name)).filter fun v => (Name.key v).isEmpty
  attributed : r.attribution.toList = r.persons.flatMap fun p => p.variants.map fun v => (v, p.id)
  attributedOnce : (r.attribution.toList.map (·.1)).Nodup

/-- Persons without common variants are assigned all their variants, person by person. -/
theorem toList_attributionOf {persons : List Person}
    (h : (persons.flatMap (·.variants)).Nodup) :
    (Census.attributionOf persons).toList =
      persons.flatMap fun p => p.variants.map fun v => (v, p.id) := by
  apply IndexedTable.toList_ofAdds
  rw [List.map_flatMap]
  simpa [Function.comp_def] using h

section Run

variable (settings : Settings) (mentions : MentionTable) (trials : TrialTable)

/-- The variants of all persons are the members of all clusters. -/
theorem flatMap_variants_run :
    (run settings mentions trials).persons.flatMap (·.variants) =
      allMembers (clusters settings mentions) := by
  rw [List.flatMap_def, variants_persons_run, ← List.flatMap_def]
  rfl

/-- Every name with a key is a variant once. -/
theorem variants_perm :
    ((run settings mentions trials).persons.flatMap (·.variants)).Perm (keyedNames mentions) := by
  rw [flatMap_variants_run]
  exact allMembers_clusters_perm settings mentions

theorem nodup_variants_run :
    ((run settings mentions trials).persons.flatMap (·.variants)).Nodup :=
  (variants_perm settings mentions trials).nodup_iff.mpr (nodup_keyedNames mentions)

/-- The attribution has the variants of the persons in order, each with its identifier. -/
theorem attribution_run :
    (run settings mentions trials).attribution.toList =
      (run settings mentions trials).persons.flatMap fun p =>
        p.variants.map fun v => (v, p.id) :=
  toList_attributionOf (nodup_variants_run settings mentions trials)

/-- The persons of a run partition the names with a key. -/
theorem partitions_run : (run settings mentions trials).Partitions mentions where
  owner m hm hkey := by
    apply existsUnique_get_of_nodup_flatMap (nodup_variants_run settings mentions trials)
    rw [(variants_perm settings mentions trials).mem_iff, mem_keyedNames]
    exact ⟨⟨m, hm, rfl⟩, hkey⟩
  once p hp := (List.nodup_flatMap.mp (nodup_variants_run settings mentions trials)).1 p hp
  recorded p hp v hv := by
    have hmem : v ∈ keyedNames mentions := by
      rw [← (variants_perm settings mentions trials).mem_iff]
      exact List.mem_flatMap.mpr ⟨p, hp, hv⟩
    exact (mem_keyedNames.mp hmem).symm
  inhabited p hp := by
    obtain ⟨c, hc, id, rfl⟩ := exists_cluster_of_mem_persons hp
    exact members_ne_nil hc
  setAside := manualReview_run settings mentions trials
  attributed := attribution_run settings mentions trials
  attributedOnce := (run settings mentions trials).attribution.nodup_keys

variable {settings mentions}

/-- There are no clusters only where no name has a key. -/
theorem clusters_eq_nil_iff :
    clusters settings mentions = [] ↔ ∀ m ∈ mentions.toList, Name.key m.name = "" := by
  have hperm := allMembers_clusters_perm settings mentions
  calc
    clusters settings mentions = [] ↔ allMembers (clusters settings mentions) = [] := by
      rw [allMembers, List.flatMap_eq_nil_iff, List.eq_nil_iff_forall_not_mem]
      exact forall₂_congr fun c hc => (iff_false_intro (members_ne_nil hc)).symm
    _ ↔ keyedNames mentions = [] := by
      rw [← List.length_eq_zero_iff, hperm.length_eq, List.length_eq_zero_iff]
    _ ↔ ∀ m ∈ mentions.toList, Name.key m.name = "" := by simp [keyedNames]

/-- Identifiers can be written unless they are too wide and there is one to write. -/
theorem canNumber_iff :
    canNumber settings mentions = true ↔
      settings.idWidth ≤ PersonId.maxWidth ∨ ∀ m ∈ mentions.toList, Name.key m.name = "" := by
  rw [canNumber, Bool.or_eq_true, decide_eq_true_iff, List.isEmpty_iff]
  exact or_congr_right clusters_eq_nil_iff

variable (settings mentions)

/-- A run parts the names exactly where identifiers are not too wide or not needed. -/
theorem exists_partition_iff :
    (∃ r, run? settings mentions trials = some r ∧ r.Partitions mentions) ↔
      settings.idWidth ≤ PersonId.maxWidth ∨ ∀ m ∈ mentions.toList, Name.key m.name = "" := by
  rw [← canNumber_iff, run?]
  constructor
  · rintro ⟨r, hr, -⟩
    by_contra hnumber
    simp [hnumber] at hr
  · intro hnumber
    exact ⟨_, if_pos hnumber, partitions_run settings mentions trials⟩

end Run

/-- Accepted settings under which no person can be numbered. -/
def tooWide : Settings := { Settings.standard with idWidth := PersonId.maxWidth + 1 }

/-- A table of one witness. -/
def onePetit : MentionTable := .ofPuts [.of "Jean Petit" .witness]

/-- A width that is accepted, although no identifier can be written in it. -/
theorem no_partition_tooWide :
    tooWide.validate.isOk = true ∧
      ¬ ∃ r, run? tooWide onePetit .empty = some r ∧ r.Partitions onePetit := by
  refine ⟨by decide +kernel, ?_⟩
  rintro ⟨r, hr, -⟩
  have hnumber : canNumber tooWide onePetit = true := by
    by_contra hnumber
    simp [run?, hnumber] at hr
  have hrow : .of "Jean Petit" .witness ∈ onePetit.toList := List.mem_singleton_self _
  have hkey : Name.key (Mention.of "Jean Petit" .witness).name ≠ "" := by decide +kernel
  rcases canNumber_iff.mp hnumber with hwidth | hkeys
  · exact absurd hwidth (by decide)
  · exact hkey (hkeys (.of "Jean Petit" .witness) hrow)

end Prosopography.Resolution
