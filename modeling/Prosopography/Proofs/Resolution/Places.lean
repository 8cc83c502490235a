import Prosopography.Proofs.Resolution.Clusters

/-!
# One person, one place

The records of one person agree on the place, however the names of the person came
together: places differ in the case of letters at most.
-/

namespace Prosopography

open Cluster

namespace Person

/-- No two places are recorded for the variants of a person. -/
structure AtOnePlace (p : Person) (mentions : MentionTable) : Prop where
  recorded : ∀ m ∈ mentions.toList, ∀ n ∈ mentions.toList,
    m.name ∈ p.variants → n.name ∈ p.variants → ∀ x y, m.place? = some x → n.place? = some y →
      Text.lowercased x = Text.lowercased y
  listed : ∀ x ∈ p.locations.toList, ∀ y ∈ p.locations.toList,
    Text.lowercased x = Text.lowercased y

variable {mentions : MentionTable} {trials : TrialTable} {id : PersonId} {c : Cluster}

/-- The listed places are those that the mentions of the variants record. -/
theorem mem_locations_ofCluster {x : String} :
    x ∈ (ofCluster mentions trials id c).locations.toList ↔
      ∃ m ∈ mentions.toList, m.name ∈ c.members ∧ m.place? = some x := by
  calc
    x ∈ (ofCluster mentions trials id c).locations.toList ↔
        x ∈ (mentionsOf mentions c).filterMap (·.place?) := SortedSet.mem_ofList
    _ ↔ ∃ m ∈ mentions.toList, m.name ∈ c.members ∧ m.place? = some x := by
      simp only [List.mem_filterMap, mem_mentionsOf, and_assoc]

end Person

namespace Cluster

theorem placeKey?_of_place? {m : Mention} {x : String} (h : m.place? = some x) :
    placeKey? m.location = some (Text.lowercased x) := by
  have hplace : Mention.placeOf? m.location = some x := h
  rw [placeKey?, hplace, Option.map_some]

/-- A cluster with all its recorded places and no second one tells its mentions' places. -/
theorem lowercased_eq {mentions : MentionTable} {c : Cluster} (hplaced : c.Placed mentions)
    (hone : c.AtOnePlace) {m n : Mention} (hm : m ∈ mentions.toList) (hn : n ∈ mentions.toList)
    (hmc : m.name ∈ c.members) (hnc : n.name ∈ c.members) {x y : String}
    (hx : m.place? = some x) (hy : n.place? = some y) :
    Text.lowercased x = Text.lowercased y :=
  atOnePlace_iff.mp hone _ (hplaced m hm hmc _ (placeKey?_of_place? hx)) _
    (hplaced n hn hnc _ (placeKey?_of_place? hy))

end Cluster

namespace Resolution

/-- No chain of merges and attachments gives a person two places. -/
theorem atOnePlace_persons (settings : Settings) (mentions : MentionTable) (trials : TrialTable) :
    ∀ p ∈ (run settings mentions trials).persons, p.AtOnePlace mentions := by
  intro p hp
  obtain ⟨c, hc, id, rfl⟩ := exists_cluster_of_mem_persons hp
  constructor
  · intro m hm n hn hmc hnc x y hx hy
    exact lowercased_eq (placed_clusters hc) (atOnePlace_clusters hc) hm hn hmc hnc hx hy
  · intro x hx y hy
    obtain ⟨m, hm, hmc, hx⟩ := Person.mem_locations_ofCluster.mp hx
    obtain ⟨n, hn, hnc, hy⟩ := Person.mem_locations_ofCluster.mp hy
    exact lowercased_eq (placed_clusters hc) (atOnePlace_clusters hc) hm hn hmc hnc hx hy

/-- Two spellings of one place, and a name that would fit but for its place. -/
def twoTowns : MentionTable := .ofPuts [
  (Mention.of "Jean Petit" .witness).withLocation "Toul",
  (Mention.of "jean petit" .witness).withLocation " TOUL ",
  (Mention.of "Jean Petit Jean" .witness).withLocation "Metz"]

/-- A person of one town, which is spelled in two ways. -/
theorem atOnePlace_twoTowns :
    ∃ p ∈ (run .standard twoTowns .empty).persons,
      p.variants = ["Jean Petit", "jean petit"] ∧ p.locations.toList = ["TOUL", "Toul"] ∧
        p.AtOnePlace twoTowns := by
  have hpersons : (run .standard twoTowns .empty).persons.map
        (fun p => (p.variants, p.locations.toList)) =
      [(["Jean Petit", "jean petit"], ["TOUL", "Toul"]), (["Jean Petit Jean"], ["Metz"])] := by
    decide +kernel
  obtain ⟨p, hp, hlists⟩ := List.mem_map.mp (hpersons ▸ List.mem_cons_self)
  obtain ⟨hvariants, hlocations⟩ := Prod.mk.inj hlists
  exact ⟨p, hp, hvariants, hlocations, atOnePlace_persons _ _ _ p hp⟩

end Resolution

end Prosopography
