import Prosopography.Proofs.Resolution.Clusters

/-!
# Why a name belongs to a person

In a greedy run nothing is linked by a chain: a name is similar to the key of its
person, or to a reference by surname that was attached to the person as a whole.
-/

namespace Prosopography

open Cluster

/-- How a name came to be a variant of a person with a given key. -/
inductive Explained (s : Settings) (key : String) (variants : List String) (v : String) : Prop where
  | own (h : Name.key v = key)
  | merged (h : s.policy.SimilarKeys key (Name.key v))
  /-- The reference is a variant as well, and the name is recorded under it or merged into it. -/
  | attached (reference : String) (surname : List Char)
    (enabled : s.attachSurnames = true)
    (recorded : ∃ u ∈ variants, Name.key u = reference)
    (refers : Name.GivesSurname reference.toList surname)
    (fits : s.mergeThreshold ≤
      Similarity.toFloat (Similarity.ratio (Name.familyName key.toList) surname))
    (held : Name.key v = reference ∨ s.policy.SimilarKeys reference (Name.key v))

theorem Explained.mono {s : Settings} {key v : String} {variants variants' : List String}
    (hsub : ∀ u ∈ variants, u ∈ variants') (h : Explained s key variants v) :
    Explained s key variants' v := by
  cases h with
  | own h => exact .own h
  | merged h => exact .merged h
  | attached reference surname enabled recorded refers fits held =>
      obtain ⟨u, hu, hkey⟩ := recorded
      exact .attached reference surname enabled ⟨u, hsub u hu, hkey⟩ refers fits held

namespace Cluster

variable {s : Settings}

/-- All names of a cluster have its key. -/
structure Exact (c : Cluster) : Prop where
  inhabited : c.members ≠ []
  keys : ∀ v ∈ c.members, Name.key v = c.key

/-- The names of a cluster are similar to its key, which is the key of one of them. -/
structure Direct (p : MergePolicy) (c : Cluster) : Prop where
  recorded : ∃ u ∈ c.members, Name.key u = c.key
  keys : ∀ v ∈ c.members, Name.key v = c.key ∨ p.SimilarKeys c.key (Name.key v)

theorem exact_of_mem_initial {mentions : MentionTable} {c : Cluster}
    (h : c ∈ (initial mentions).clusters) : c.Exact :=
  ⟨members_ne_nil_of_mem_initial h, fun _ => key_of_mem_initial h⟩

theorem Exact.direct {p : MergePolicy} {c : Cluster} (h : c.Exact) : c.Direct p := by
  obtain ⟨u, hu⟩ := List.exists_mem_of_ne_nil _ h.inhabited
  exact ⟨⟨u, hu, h.keys u hu⟩, fun v hv => .inl (h.keys v hv)⟩

/-- A cluster that absorbs the exact names of a similar key stays direct. -/
theorem Direct.absorb {p : MergePolicy} {c d : Cluster} (hc : c.Direct p) (hd : d.Exact)
    (h : p.SimilarKeys c.key d.key) : (c.absorb d).Direct p where
  recorded := by
    obtain ⟨u, hu, hkey⟩ := hc.recorded
    exact ⟨u, List.mem_append_left _ hu, hkey⟩
  keys v hv := by
    rcases List.mem_append.mp hv with hv | hv
    · exact hc.keys v hv
    · exact .inr (hd.keys v hv ▸ h)

/-- The greedy strategy only merges names with their target. -/
theorem direct_mergeGreedy {p : MergePolicy} {cs : List Cluster} (h : ∀ c ∈ cs, c.Exact) :
    ∀ c ∈ (p.mergeGreedy cs).clusters, c.Direct p := by
  apply MergePolicy.mergeGreedy_forall _ (fun _ hc => hc.direct) h
  intro c d hc hd haccepted
  exact hc.absorb hd (MergePolicy.isSome_accepts?_iff.mp haccepted).1

/-- The members of a direct cluster are explained by its key. -/
theorem Direct.explained {c : Cluster} (h : c.Direct s.policy) {v : String}
    (hv : v ∈ c.members) : Explained s c.key c.members v := by
  rcases h.keys v hv with hkey | hsimilar
  · exact .own hkey
  · exact .merged hsimilar

/-- A host that takes a reference explains it by its surname. -/
theorem explained_absorb {host c : Cluster} {surname : List Char} {score : Float}
    (enabled : s.attachSurnames = true)
    (hhost : ∀ v ∈ host.members, Explained s host.key host.members v)
    (hc : c.Direct s.policy) (hsurname : Name.surnameReference? c.key.toList = some surname)
    (hscore : surnameScore? s.mergeThreshold surname c host = some score) :
    ∀ v ∈ (host.absorb c).members, Explained s host.key (host.absorb c).members v := by
  intro v hv
  rcases List.mem_append.mp hv with hv | hv
  · exact (hhost v hv).mono fun _ => List.mem_append_left _
  · obtain ⟨u, hu, hkey⟩ := hc.recorded
    obtain ⟨-, rfl, fits, -⟩ := surnameScore?_eq_some_iff.mp hscore
    exact .attached c.key surname enabled ⟨u, List.mem_append_right _ hu, hkey⟩
      (Name.surnameReference?_eq_some_iff.mp hsurname) fits (hc.keys v hv)

/-- Attachment leaves every member explained. -/
theorem explained_attach {cs : List Cluster} (h : ∀ c ∈ cs, c.Direct s.policy) :
    ∀ c ∈ (s.attach cs).clusters, ∀ v ∈ c.members, Explained s c.key c.members v := by
  rw [Settings.attach]
  split
  · rename_i enabled
    apply attachSurnames_forall (P := Direct s.policy)
      (Q := fun c => ∀ v ∈ c.members, Explained s c.key c.members v) _ _ h
    · intro c hc v
      exact hc.explained
    · intro host c surname score hhost hc hsurname hscore
      exact explained_absorb enabled hhost hc hsurname hscore
  · intro c hc v
    exact (h c hc).explained

end Cluster

namespace Resolution

/-- Greedy runs link names by one merge and one attachment at most. -/
theorem explained_of_greedy (settings : Settings) (hgreedy : settings.strategy = .greedy)
    (mentions : MentionTable) (trials : TrialTable) :
    ∀ p ∈ (run settings mentions trials).persons, ∀ v ∈ p.variants,
      Explained settings p.key p.variants v := by
  intro p hp
  obtain ⟨c, hc, id, rfl⟩ := exists_cluster_of_mem_persons hp
  have hmerged : ∀ d ∈ (settings.merge (initial mentions).clusters).clusters,
      d.Direct settings.policy := by
    rw [Settings.merge, hgreedy]
    exact direct_mergeGreedy fun _ => exact_of_mem_initial
  exact explained_attach hmerged c hc

/-- Two names of which one has all words of the other, and a reference by their surname. -/
def petitFamily : MentionTable := .ofPuts [
  .of "Anne Petit" .witness, .of "Anne Jean Petit" .accused, .of "la Petit" .witness]

/-- A person with a variant of each kind: exact, similar, by surname. -/
theorem explained_petitFamily :
    ∃ p ∈ (run .standard petitFamily .empty).persons,
      p.variants = ["Anne Petit", "Anne Jean Petit", "la Petit"] ∧
        ∀ v ∈ p.variants, Explained .standard p.key p.variants v := by
  have hpersons : (run .standard petitFamily .empty).persons.map (·.variants) =
      [["Anne Petit", "Anne Jean Petit", "la Petit"]] := by decide +kernel
  obtain ⟨p, hp, hvariants⟩ := List.mem_map.mp (hpersons ▸ List.mem_singleton_self _)
  exact ⟨p, hp, hvariants, explained_of_greedy .standard rfl petitFamily .empty p hp⟩

end Resolution

end Prosopography
