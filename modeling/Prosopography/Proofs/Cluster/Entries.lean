import Prosopography.Proofs.Cluster.Members

/-!
# What exact clustering looks at

Entries that agree on names, keys and places are clustered alike. Blanks around a place,
the case of its letters and whatever else is recorded make no difference.
-/

namespace Prosopography

/-- Two mentions that record one name at one place, or both at none. -/
structure Mention.SameNameAndPlace (m n : Mention) : Prop where
  name : m.name = n.name
  place : m.place?.map Text.lowercased = n.place?.map Text.lowercased

namespace Cluster

/-- Two entries that cannot be told apart by what is compared. -/
structure Entry.Alike (e d : Entry) : Prop where
  name : e.name = d.name
  place : e.place? = d.place?
  key : e.key = d.key

theorem alike_ofMention {m n : Mention} (h : m.SameNameAndPlace n) :
    (Entry.ofMention m).Alike (Entry.ofMention n) :=
  ⟨h.name, h.place, congrArg Name.key h.name⟩

theorem push_congr {location location' : Option String}
    (h : placeKey? location = placeKey? location') (c : Cluster) (name : String) :
    c.push name location = c.push name location' := by
  rw [push, push, h]

section Alike

variable {entries entries' : List Entry} (h : List.Forall₂ Entry.Alike entries entries')
include h

theorem ofMembers_congr (key : String) :
    ofMembers key (entries.map fun e => (e.name, e.location)) =
      ofMembers key (entries'.map fun e => (e.name, e.location)) := by
  rw [ofMembers, ofMembers]
  generalize empty key = c
  induction h generalizing c with
  | nil => rfl
  | cons hed _ ih =>
      simp only [List.map_cons, List.foldl_cons]
      rw [hed.name, push_congr hed.place, ih]

theorem isSplit_congr (k : String) : isSplit entries k = isSplit entries' k := by
  have hplaces : (entries.filter (·.key == k)).filterMap (·.place?) =
      (entries'.filter (·.key == k)).filterMap (·.place?) := by
    induction h with
    | nil => rfl
    | cons hed _ ih =>
        rw [List.filter_cons, List.filter_cons, hed.key]
        split
        · rw [List.filterMap_cons, List.filterMap_cons, hed.place, ih]
        · exact ih
  rw [isSplit, isSplit, hplaces]

theorem home_congr {e d : Entry} (hed : e.Alike d) : home entries e = home entries' d := by
  rw [home, home, hed.key, hed.place, isSplit_congr h]

/-- Clusters of entries depend on their names, keys and places alone. -/
theorem ofEntries_congr : ofEntries entries = ofEntries entries' := by
  have hgroups := forall₂_groupBy (fun _ _ hed => home_congr h hed) h
  rw [ofEntries, ofEntries, ← List.forall₂_eq_eq_eq, List.forall₂_map_left_iff,
    List.forall₂_map_right_iff]
  apply hgroups.imp
  rintro g g' ⟨hhome, hmembers⟩
  rw [hhome, ofMembers_congr hmembers]

end Alike

/-- Tables of the same names at the same places, in one order, are clustered alike. -/
theorem initial_congr {mentions mentions' : MentionTable}
    (h : List.Forall₂ Mention.SameNameAndPlace mentions.toList mentions'.toList) :
    initial mentions = initial mentions' := by
  have hentries : List.Forall₂ Entry.Alike (mentions.toList.map Entry.ofMention)
      (mentions'.toList.map Entry.ofMention) := by
    rw [List.forall₂_map_left_iff, List.forall₂_map_right_iff]
    exact h.imp fun _ _ => alike_ofMention
  have hkeyed : List.Forall₂ Entry.Alike
      ((mentions.toList.map Entry.ofMention).filter (!·.key.isEmpty))
      ((mentions'.toList.map Entry.ofMention).filter (!·.key.isEmpty)) := by
    apply List.rel_filter _ hentries
    intro e d hed
    change (!e.key.isEmpty) = true ↔ (!d.key.isEmpty) = true
    rw [hed.key]
  have hnames : mentions.toList.map (·.name) = mentions'.toList.map (·.name) := by
    rw [← List.forall₂_eq_eq_eq, List.forall₂_map_left_iff, List.forall₂_map_right_iff]
    exact h.imp fun _ _ hmn => hmn.name
  have hunkeyed : (initial mentions).unkeyed = (initial mentions').unkeyed := by
    rw [unkeyed_initial, unkeyed_initial, hnames]
  exact congrArg₂ Initial.mk (ofEntries_congr hkeyed) hunkeyed

end Cluster

end Prosopography
