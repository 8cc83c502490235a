import Prosopography.Cluster.Initial
import Prosopography.Proofs.Cluster.Places
import Mathlib.Data.List.Nodup
import Mathlib.Data.List.Pairwise
import Mathlib.Order.Fin.Basic

/-!
# Members of clusters

The members of all clusters together, and how exact clustering fills them: with
the names of a table that have a key, each once, under this key.
-/

namespace Prosopography.Cluster

open scoped List

/-- The members of some clusters, cluster by cluster. -/
def allMembers (cs : List Cluster) : List String := cs.flatMap (·.members)

@[simp] theorem allMembers_nil : allMembers [] = [] := rfl

@[simp] theorem allMembers_cons (c : Cluster) (cs : List Cluster) :
    allMembers (c :: cs) = c.members ++ allMembers cs := rfl

@[simp] theorem allMembers_append (cs ds : List Cluster) :
    allMembers (cs ++ ds) = allMembers cs ++ allMembers ds :=
  List.flatMap_append

/-- What occurs once in a concatenation occurs in one piece. -/
theorem existsUnique_get_of_nodup_flatMap {α β : Type} {f : α → List β} {l : List α}
    (h : (l.flatMap f).Nodup) {b : β} (hb : b ∈ l.flatMap f) :
    ∃! i : Fin l.length, b ∈ f (l.get i) := by
  obtain ⟨a, ha, hb⟩ := List.mem_flatMap.mp hb
  obtain ⟨i, rfl⟩ := List.get_of_mem ha
  have hapart : ∀ {j k : Fin l.length}, j < k → b ∈ f (l.get j) → b ∉ f (l.get k) := by
    intro j k hjk hj hk
    have hpairs := List.pairwise_iff_getElem.mp (List.nodup_flatMap.mp h).2
    exact hpairs j k j.isLt k.isLt hjk hj hk
  refine ⟨i, hb, ?_⟩
  intro j hj
  rcases lt_trichotomy j i with hlt | heq | hgt
  · exact absurd hb (hapart hlt hj)
  · exact heq
  · exact absurd hj (hapart hgt hb)

/-- A cluster of one home: some entries under their key. -/
theorem exists_of_mem_ofEntries {entries : List Entry} {c : Cluster} (h : c ∈ ofEntries entries) :
    ∃ g : List Entry, g ≠ [] ∧ (∀ e ∈ g, e ∈ entries ∧ e.key = c.key) ∧
      c = ofMembers c.key (g.map fun e => (e.name, e.location)) := by
  obtain ⟨g, hg, rfl⟩ := List.mem_map.mp h
  refine ⟨g.2, group_ne_nil hg, ?_, by rw [key_ofMembers]⟩
  intro e he
  rw [group_eq_filter hg] at he
  obtain ⟨he, hhome⟩ := List.mem_filter.mp he
  have hkey : (home entries e).1 = g.1.1 := congrArg (·.1) (beq_iff_eq.mp hhome)
  exact ⟨he, by rw [key_ofMembers, ← hkey]; rfl⟩

/-- Clusters of entries hold the names of all entries. -/
theorem allMembers_ofEntries_perm (entries : List Entry) :
    allMembers (ofEntries entries) ~ entries.map (·.name) := by
  have hgroups : allMembers (ofEntries entries) =
      ((groupBy (home entries) entries).flatMap (·.2)).map (·.name) := by
    rw [allMembers, ofEntries, List.flatMap_map, List.map_flatMap]
    apply List.flatMap_congr
    intro g _
    simp
  rw [hgroups]
  exact (groupBy_perm (home entries) entries).map _

section Initial

variable {mentions : MentionTable}

/-- The recorded names that have a key, in table order. -/
def keyedNames (mentions : MentionTable) : List String :=
  (mentions.toList.map (·.name)).filter fun v => !(Name.key v).isEmpty

/-- The names with a key are those of the table whose key is not empty. -/
theorem mem_keyedNames {v : String} :
    v ∈ keyedNames mentions ↔ (∃ m ∈ mentions.toList, m.name = v) ∧ Name.key v ≠ "" := by
  simp [keyedNames]

theorem nodup_keyedNames (mentions : MentionTable) : (keyedNames mentions).Nodup :=
  mentions.nodup_keys.filter _

/-- Exact clustering takes every name that has a key, and takes it once. -/
theorem allMembers_initial_perm (mentions : MentionTable) :
    allMembers (initial mentions).clusters ~ keyedNames mentions := by
  have hnames : ((mentions.toList.map Entry.ofMention).filter (!·.key.isEmpty)).map (·.name) =
      keyedNames mentions := by
    rw [keyedNames, List.filter_map, List.filter_map, List.map_map]
    rfl
  rw [← hnames]
  exact allMembers_ofEntries_perm _

/-- The names without a key are set aside, in the order of the table. -/
theorem unkeyed_initial (mentions : MentionTable) :
    (initial mentions).unkeyed =
      (mentions.toList.map (·.name)).filter fun v => (Name.key v).isEmpty := by
  simp only [initial, List.filter_map, List.map_map]
  rfl

/-- An initial cluster holds the names of some mentions under their common key. -/
theorem exists_of_mem_initial {c : Cluster} (h : c ∈ (initial mentions).clusters) :
    ∃ g : List Entry, g ≠ [] ∧
      (∀ e ∈ g, e.key = c.key ∧ ∃ m ∈ mentions.toList, Entry.ofMention m = e) ∧
      c = ofMembers c.key (g.map fun e => (e.name, e.location)) := by
  obtain ⟨g, hne, hg, hc⟩ := exists_of_mem_ofEntries h
  refine ⟨g, hne, ?_, hc⟩
  intro e he
  obtain ⟨he, hkey⟩ := hg e he
  obtain ⟨m, hm, hme⟩ := List.mem_map.mp (List.mem_filter.mp he).1
  exact ⟨hkey, m, hm, hme⟩

/-- No cluster is without members. -/
theorem members_ne_nil_of_mem_initial {c : Cluster} (h : c ∈ (initial mentions).clusters) :
    c.members ≠ [] := by
  obtain ⟨g, hne, -, hc⟩ := exists_of_mem_initial h
  rw [hc, members_ofMembers]
  simpa using hne

/-- All members of a cluster have its key. -/
theorem key_of_mem_initial {c : Cluster} (h : c ∈ (initial mentions).clusters) {v : String}
    (hv : v ∈ c.members) : Name.key v = c.key := by
  obtain ⟨g, -, hg, hc⟩ := exists_of_mem_initial h
  rw [hc, members_ofMembers, List.map_map] at hv
  obtain ⟨e, he, rfl⟩ := List.mem_map.mp hv
  obtain ⟨hkey, m, -, rfl⟩ := hg e he
  exact hkey

/-- The recorded places of all members belong to a cluster. -/
def Placed (mentions : MentionTable) (c : Cluster) : Prop :=
  ∀ m ∈ mentions.toList, m.name ∈ c.members → ∀ x, placeKey? m.location = some x →
    x ∈ c.places.toList

theorem Placed.absorb {c d : Cluster} (hc : c.Placed mentions) (hd : d.Placed mentions) :
    (c.absorb d).Placed mentions := by
  intro m hm hmem x hx
  rw [mem_places_absorb]
  rcases List.mem_append.mp hmem with hmem | hmem
  · exact .inl (hc m hm hmem x hx)
  · exact .inr (hd m hm hmem x hx)

/-- The places of a cluster are those of its members. -/
theorem placed_of_mem_initial {c : Cluster} (h : c ∈ (initial mentions).clusters) :
    c.Placed mentions := by
  obtain ⟨g, -, hg, hc⟩ := exists_of_mem_initial h
  intro m hm hmem x hx
  rw [hc, members_ofMembers, List.map_map] at hmem
  obtain ⟨e, he, hname⟩ := List.mem_map.mp hmem
  obtain ⟨-, d, hd, rfl⟩ := hg e he
  -- Names are keys of the table, so the member was recorded by this mention.
  obtain rfl : d = m := List.inj_on_of_nodup_map mentions.nodup_keys hd hm hname
  rw [hc, mem_places_ofMembers]
  exact ⟨(d.name, d.location), List.mem_map.mpr ⟨_, he, rfl⟩, hx⟩

end Initial

end Prosopography.Cluster
