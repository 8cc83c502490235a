import Prosopography.Proofs.Cluster.Components
import Prosopography.Proofs.Cluster.Greedy
import Prosopography.Proofs.Cluster.Surname
import Mathlib.Data.List.Forall2

/-!
# Clusters keep their order

A cluster that absorbs others keeps its key and its first members, and the clusters that
are left stand in the order of those they continue. Exact clustering puts its clusters
in the order of their first mentions.
-/

namespace Prosopography

namespace Cluster

/-- A cluster under the same key with more members at the end. -/
structure Continues (d c : Cluster) : Prop where
  key : d.key = c.key
  members : c.members <+: d.members

theorem Continues.refl (c : Cluster) : c.Continues c := ⟨rfl, List.prefix_refl _⟩

theorem Continues.trans {c d e : Cluster} (hed : e.Continues d) (hdc : d.Continues c) :
    e.Continues c :=
  ⟨hed.key.trans hdc.key, hdc.members.trans hed.members⟩

/-- An absorbing cluster keeps its key and its first members. -/
theorem continues_absorb (c d : Cluster) : (c.absorb d).Continues c :=
  ⟨rfl, List.prefix_append _ _⟩

instance : Std.Refl Continues := ⟨.refl⟩

/-- The clusters of one list continue some of another, in its order. -/
abbrev ContinueInOrder (out cs : List Cluster) : Prop := List.SublistForall₂ Continues out cs

theorem ContinueInOrder.trans {cs ds es : List Cluster} (hes : ContinueInOrder es ds)
    (hds : ContinueInOrder ds cs) : ContinueInOrder es cs :=
  sublistForall₂_comp (fun _ _ _ hed hdc => hed.trans hdc) hes hds

/-- A cluster under the key of a mention that is its first member. -/
structure StartsWith (c : Cluster) (m : Mention) : Prop where
  member : c.members.head? = some m.name
  key : c.key = Name.key m.name

theorem Continues.startsWith {c d : Cluster} {m : Mention} (h : d.Continues c)
    (hc : c.StartsWith m) : d.StartsWith m := by
  obtain ⟨l, hl⟩ := h.members
  exact ⟨by rw [← hl, List.head?_append, hc.member, Option.some_or], h.key.trans hc.key⟩

/-- Clusters of entries stand in the order of their first entries. -/
theorem exists_firsts_ofEntries (entries : List Entry) :
    ∃ firsts, List.Forall₂ (fun c e => c.members.head? = some e.name ∧ c.key = e.key)
      (ofEntries entries) firsts ∧ firsts.Sublist entries := by
  obtain ⟨firsts, hfirsts, hsub⟩ := List.sublistForall₂_iff.mp
    (sublistForall₂_groupBy (home entries) entries)
  refine ⟨firsts, ?_, hsub⟩
  rw [ofEntries, List.forall₂_map_left_iff]
  apply hfirsts.imp
  rintro g e ⟨hhome, hhead⟩
  constructor
  · simp [hhead]
  · rw [key_ofMembers, hhome, home]

/-- Exact clustering puts clusters in the order in which their first members are recorded. -/
theorem startsWith_initial (mentions : MentionTable) :
    List.SublistForall₂ StartsWith (initial mentions).clusters mentions.toList := by
  obtain ⟨firsts, hfirsts, hsub⟩ := exists_firsts_ofEntries
    ((mentions.toList.map Entry.ofMention).filter (!·.key.isEmpty))
  obtain ⟨ms, hms, rfl⟩ := List.sublist_map_iff.mp (hsub.trans List.filter_sublist)
  refine List.sublistForall₂_iff.mpr ⟨ms, ?_, hms⟩
  rw [List.forall₂_map_right_iff] at hfirsts
  exact hfirsts.imp fun c m h => ⟨h.1, h.2⟩

/-- Attaching a reference leaves the other clusters where they stand. -/
theorem continueInOrder_attachFrom {threshold : Float} (done todo : List Cluster) :
    ContinueInOrder (attachFrom threshold done todo).clusters (done ++ todo) := by
  apply attachFrom_induction (motive := fun done todo out => ContinueInOrder out (done ++ todo))
  · intro done
    exact (List.sublist_append_left done []).sublistForall₂
  · intro done c rest out h
    rwa [List.append_assoc] at h
  · intro done c rest out surname l host l' score _ _ heq h
    rw [List.take_append_drop] at h
    -- The host grows where it stands; only then does the reference behind it go.
    have hhost : ContinueInOrder (l ++ host.absorb c :: l') (done ++ rest) := by
      rw [heq, ContinueInOrder, List.sublistForall₂_iff]
      exact ⟨_, List.rel_append (List.forall₂_refl l)
        (.cons (continues_absorb host c) (List.forall₂_refl l')), .refl _⟩
    have hrest : ContinueInOrder (done ++ rest) (done ++ c :: rest) :=
      ((List.sublist_cons_self c rest).append_left done).sublistForall₂
    exact h.trans (hhost.trans hrest)

/-- Attachment keeps the order of the clusters that it leaves. -/
theorem continueInOrder_attachSurnames {threshold : Float} (cs : List Cluster) :
    ContinueInOrder (attachSurnames threshold cs).clusters cs :=
  continueInOrder_attachFrom [] cs

end Cluster

open Cluster

namespace MergePolicy

variable (p : MergePolicy) (cs : List Cluster)

/-- The greedy strategy keeps the order of the clusters that it leaves. -/
theorem continueInOrder_mergeGreedy : ContinueInOrder (p.mergeGreedy cs).clusters cs := by
  induction cs using mergeGreedy.induct p with
  | case1 =>
      rw [mergeGreedy]
      exact .nil
  | case2 c rest s ih =>
      rw [mergeGreedy]
      have htarget : s.target.Continues c :=
        sweep_target (P := fun _ => True) (fun d e hd _ _ => (continues_absorb d e).trans hd)
          (.refl c) fun _ _ => trivial
      exact .cons htarget (ih.trans (p.left_sweep_sublist c rest).sublistForall₂)

theorem continues_foldl_absorb (rest : List Cluster) (c : Cluster) :
    (rest.foldl Cluster.absorb c).Continues c := by
  induction rest generalizing c with
  | nil => exact .refl c
  | cons d rest ih => exact (ih (c.absorb d)).trans (continues_absorb c d)

theorem continues_gather {l : List Cluster} {c d : Cluster} (hc : l.head? = some c)
    (hd : gather l = some d) : d.Continues c := by
  cases l with
  | nil => simp at hc
  | cons b rest =>
      obtain rfl : b = c := by simpa using hc
      obtain rfl := Option.some.inj hd
      exact continues_foldl_absorb rest b

/-- The transitive strategy orders its clusters by their first members. -/
theorem continueInOrder_mergeTransitive : ContinueInOrder (p.mergeTransitive cs).clusters cs := by
  obtain ⟨firsts, hfirsts, hsub⟩ := List.sublistForall₂_iff.mp
    (sublistForall₂_groupBy (p.sets cs).root (List.finRange cs.length))
  -- A component is gathered into its first cluster, which `firsts` gives by position.
  have hgathered : List.Forall₂ (fun o i => ∀ d, o = some d → d.Continues (cs.get i))
      ((p.mergeTransitive cs).clusters.map some) firsts := by
    rw [map_some_clusters_mergeTransitive, List.forall₂_map_left_iff]
    apply hfirsts.imp
    rintro g i ⟨-, hhead⟩ d hd
    exact continues_gather (by simp [hhead]) hd
  have hcontinue : List.Forall₂ Continues (p.mergeTransitive cs).clusters (firsts.map cs.get) := by
    simpa using hgathered
  have hcs : (firsts.map cs.get).Sublist cs := by
    simpa using hsub.map cs.get
  exact List.sublistForall₂_iff.mpr ⟨_, hcontinue, hcs⟩

end MergePolicy

end Prosopography
