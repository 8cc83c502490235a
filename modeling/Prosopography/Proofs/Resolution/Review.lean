import Prosopography.Proofs.Resolution.Clusters

/-!
# Names set aside for review

A name without a key is in no cluster, so that nothing of a run comes from its mention but the
list of the names to be reviewed. Two tables whose mentions with a key are the same ones in the
same order have the same run, wherever the other mentions stand among them.
-/

namespace Prosopography

open Cluster

namespace MentionTable

/-- The mentions whose names have a key, in table order. -/
def keyedRows (mentions : MentionTable) : List Mention :=
  mentions.toList.filter fun m => !(Name.key m.name).isEmpty

/-- The table without the mentions whose names have no key. -/
def keyed (mentions : MentionTable) : MentionTable := .ofPuts mentions.keyedRows

theorem toList_keyed (mentions : MentionTable) : mentions.keyed.toList = mentions.keyedRows :=
  IndexedTable.toList_ofPuts (mentions.nodup_keys.sublist (List.filter_sublist.map _))

@[simp] theorem keyedRows_keyed (mentions : MentionTable) :
    mentions.keyed.keyedRows = mentions.keyedRows := by
  rw [keyedRows, toList_keyed, keyedRows, List.filter_filter]
  simp only [Bool.and_self]

/-- No row of the keyed table is set aside. -/
theorem unkeyed_keyed (mentions : MentionTable) : (initial mentions.keyed).unkeyed = [] := by
  rw [unkeyed_initial, toList_keyed, List.filter_eq_nil_iff]
  intro v hv
  obtain ⟨m, hm, rfl⟩ := List.mem_map.mp hv
  simpa using (List.mem_filter.mp hm).2

theorem clusters_initial_eq (mentions : MentionTable) :
    (initial mentions).clusters = ofEntries (mentions.keyedRows.map Entry.ofMention) := by
  simp only [initial, List.filter_map]
  rfl

section SameRows

variable {mentions mentions' : MentionTable} (h : mentions.keyedRows = mentions'.keyedRows)
include h

theorem clusters_initial_of_keyedRows :
    (initial mentions).clusters = (initial mentions').clusters := by
  rw [clusters_initial_eq, clusters_initial_eq, h]

/-- A name with a key is looked up among the mentions with one. -/
theorem get?_of_keyedRows {v : String} (hv : Name.key v ≠ "") :
    mentions.get? v = mentions'.get? v := by
  have hrows : ∀ {table : MentionTable} {m : Mention}, m.name = v →
      (m ∈ table.toList ↔ m ∈ table.keyedRows) := by
    rintro table m rfl
    simp [keyedRows, hv]
  ext m
  rw [IndexedTable.get?_eq_some_iff, IndexedTable.get?_eq_some_iff]
  apply and_congr_left
  intro hname
  rw [hrows hname, hrows hname, h]

end SameRows

end MentionTable

/-- Persons are made of what the table records under the names of their clusters. -/
theorem Census.ofClusters_congr {mentions mentions' : MentionTable} {cs : List Cluster}
    (h : ∀ c ∈ cs, ∀ v ∈ c.members, mentions.get? v = mentions'.get? v) (trials : TrialTable)
    (format : IdFormat) :
    ofClusters mentions trials format cs = ofClusters mentions' trials format cs := by
  have hpersons : (ofClusters mentions trials format cs).persons =
      (ofClusters mentions' trials format cs).persons := by
    apply List.map_congr_left
    intro e he
    have hms : Person.mentionsOf mentions e.1 = Person.mentionsOf mentions' e.1 :=
      List.filterMap_congr (h e.1 (List.fst_mem_of_mem_zipIdx he))
    simp only [Person.ofCluster, hms]
  exact congrArg (fun ps => Census.mk ps (attributionOf ps)
    (ps.foldl (fun n p => n + p.unresolvedTrials trials) 0)) hpersons

namespace Resolution

/-- A resolution with some names to be reviewed in place of its own. -/
def withReview (names : List String) (r : Resolution) : Resolution :=
  { r with
    manualReview := names
    summary := { r.summary with manualReview := names.length } }

section SameRows

variable (settings : Settings) {mentions mentions' : MentionTable}
  (h : mentions.keyedRows = mentions'.keyedRows)
include h

/-- The clusters of a run depend on the rows with a key alone. -/
theorem clusters_of_keyedRows : clusters settings mentions = clusters settings mentions' := by
  rw [clusters, clusters, MentionTable.clusters_initial_of_keyedRows h]

theorem canNumber_of_keyedRows : canNumber settings mentions = canNumber settings mentions' := by
  change (_ || (clusters settings mentions).isEmpty) = (_ || (clusters settings mentions').isEmpty)
  rw [clusters_of_keyedRows settings h]

/-- The mentions without a key change nothing of a run but the names to be reviewed. -/
theorem run_of_keyedRows (trials : TrialTable) :
    run settings mentions' trials =
      (run settings mentions trials).withReview (initial mentions').unkeyed := by
  have hcensus : Census.ofClusters mentions' trials settings.idFormat (clusters settings mentions) =
      Census.ofClusters mentions trials settings.idFormat (clusters settings mentions) := by
    apply Census.ofClusters_congr
    intro c hc v hv
    apply MentionTable.get?_of_keyedRows h.symm
    have hmem : v ∈ allMembers (clusters settings mentions) := List.mem_flatMap.mpr ⟨c, hc, hv⟩
    exact (mem_keyedNames.mp ((allMembers_clusters_perm settings mentions).subset hmem)).2
  rw [clusters] at hcensus
  simp only [run, withReview, MentionTable.clusters_initial_of_keyedRows h.symm, hcensus]

end SameRows

/-- Without the mentions that have no key a run is the same, except that there is no name to be
reviewed. -/
theorem run?_keyed (settings : Settings) (mentions : MentionTable) (trials : TrialTable) :
    run? settings mentions.keyed trials =
      (run? settings mentions trials).map (withReview []) := by
  have hrows : mentions.keyedRows = mentions.keyed.keyedRows := mentions.keyedRows_keyed.symm
  have hrun := run_of_keyedRows settings hrows trials
  rw [mentions.unkeyed_keyed] at hrun
  rw [run?, run?, canNumber_of_keyedRows settings hrows, hrun]
  split
  · rfl
  · rfl

/-- Names without a key stand before, between and behind those with one. -/
example :
    let mentions : MentionTable := .ofPuts [.of "45 ans" .witness, .of "Jean Petit" .witness,
      .of ", 30 ans" .accused, .of "Anne Colin" .witness, .of " " .person]
    (run .standard mentions .empty).manualReview = ["45 ans", ", 30 ans", " "] ∧
      mentions.keyed.toList.map (·.name) = ["Jean Petit", "Anne Colin"] := by
  decide +kernel

end Resolution

end Prosopography
