import Prosopography.Collection.SortedSet
import Prosopography.Mention.Basic

/-!
# Clusters

A cluster holds the names believed to denote one person, under one matching key,
and the places recorded for them. Two clusters are compatible when their places
do not tell them apart.
-/

namespace Prosopography

/-- Names that stand for one person as far as is known. -/
structure Cluster where
  /-- The matching key of the first member. -/
  key : String
  members : List String
  /-- Recorded places in lowercase. -/
  places : SortedSet String

namespace Cluster

/-- The cluster of a key before it has members. -/
def empty (key : String) : Cluster := ⟨key, [], .empty⟩

/-- The form in which a recorded place is compared. -/
def placeKey? (location : Option String) : Option String :=
  (Mention.placeOf? location).map Text.lowercased

/-- Adds a member with its recorded location. -/
def push (c : Cluster) (name : String) (location : Option String) : Cluster where
  key := c.key
  members := c.members ++ [name]
  places :=
    match placeKey? location with
    | some place => c.places.insert place
    | none => c.places

/-- A cluster of names with their recorded locations. -/
def ofMembers (key : String) (members : List (String × Option String)) : Cluster :=
  members.foldl (fun c m => c.push m.1 m.2) (empty key)

/-- Takes over the members of another cluster; the key stays. -/
def absorb (c d : Cluster) : Cluster where
  key := c.key
  members := c.members ++ d.members
  places := c.places.union d.places

/-- Places agree if one side has none or both share one. -/
def placesAgree (a b : SortedSet String) : Bool := a.isEmpty || b.isEmpty || !a.disjoint b

/-- Whether the places of two clusters agree. -/
def compatible (c d : Cluster) : Bool := placesAgree c.places d.places

@[simp] theorem key_absorb (c d : Cluster) : (c.absorb d).key = c.key := rfl

@[simp] theorem members_absorb (c d : Cluster) :
    (c.absorb d).members = c.members ++ d.members := rfl

@[simp] theorem mem_places_absorb {c d : Cluster} {p : String} :
    p ∈ (c.absorb d).places.toList ↔ p ∈ c.places.toList ∨ p ∈ d.places.toList :=
  SortedSet.mem_union

@[simp] theorem key_push (c : Cluster) (name : String) (location : Option String) :
    (c.push name location).key = c.key := rfl

@[simp] theorem members_push (c : Cluster) (name : String) (location : Option String) :
    (c.push name location).members = c.members ++ [name] := rfl

/-- Places agree when one side has none or both have one in common. -/
theorem placesAgree_iff {a b : SortedSet String} :
    placesAgree a b = true ↔
      a.toList = [] ∨ b.toList = [] ∨ ∃ p ∈ a.toList, p ∈ b.toList := by
  simp only [placesAgree, Bool.or_eq_true, SortedSet.isEmpty, List.isEmpty_iff, or_assoc,
    Bool.not_eq_true', ← Bool.not_eq_true, SortedSet.disjoint_iff, Classical.not_forall,
    Classical.not_not, exists_prop]

end Cluster

end Prosopography
