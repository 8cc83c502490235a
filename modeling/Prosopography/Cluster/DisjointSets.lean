import Prosopography.Cluster.Basic

/-!
# Disjoint sets of clusters

A forest over positions, in which no parent comes after its child, so that the
root of a component is its first position. A look-up shortens the path it takes.
Each root carries the places of its whole component.
-/

namespace Prosopography

/-- A forest over positions with the places of each root's component. -/
structure DisjointSets (n : Nat) where
  parent : Vector (Fin n) n
  places : Vector (SortedSet String) n
  parent_le : ∀ i : Fin n, parent[i] ≤ i

namespace DisjointSets

variable {n : Nat}

/-- Every position on its own, with the places given for it. -/
def singletons (places : Vector (SortedSet String) n) : DisjointSets n where
  parent := Vector.ofFn id
  places
  parent_le := by simp

/-- The root of a component, reached from parent to parent. -/
def root (s : DisjointSets n) (i : Fin n) : Fin n :=
  if s.parent[i] = i then i else s.root s.parent[i]
termination_by i.val
decreasing_by
  have := s.parent_le i
  omega

/-- Hangs a position under one that does not come after it. -/
def hang (s : DisjointSets n) (i r : Fin n) (h : r ≤ i) : DisjointSets n where
  parent := s.parent.set i r
  places := s.places
  parent_le := by
    intro j
    by_cases hij : i = j
    · subst hij
      simpa using h
    · have : (i : Nat) ≠ j := fun h => hij (Fin.ext h)
      simpa [Vector.getElem_set, this] using s.parent_le j

/-- Looks up a root and hangs every position on the way directly under it. -/
def find (s : DisjointSets n) (i : Fin n) : DisjointSets n × { r : Fin n // r ≤ i } :=
  if s.parent[i] = i then (s, ⟨i, Nat.le_refl _⟩)
  else
    let (t, r) := s.find s.parent[i]
    let h : r.val ≤ i := Nat.le_trans r.property (s.parent_le i)
    (t.hang i r.val h, ⟨r.val, h⟩)
termination_by i.val
decreasing_by
  have := s.parent_le i
  omega

/-- Hangs a root under an earlier one, which takes over its places. -/
def adopt (s : DisjointSets n) (child root : Fin n) (h : root ≤ child) : DisjointSets n where
  parent := (s.hang child root h).parent
  places := (s.places.set root (s.places[root].union s.places[child])).set child .empty
  parent_le := (s.hang child root h).parent_le

/-- Joins two components given by their roots, the later one under the earlier one. -/
def link (s : DisjointSets n) (a b : Fin n) : DisjointSets n :=
  if h : a ≤ b then s.adopt b a h else s.adopt a b (by omega)

/-- Joins the components of two positions and tells whether it did: components that are one
already, or whose places do not agree, stay as they are. -/
def union (s : DisjointSets n) (i j : Fin n) : DisjointSets n × Bool :=
  let (s, a) := s.find i
  let (s, b) := s.find j
  if a.val = b.val || !Cluster.placesAgree s.places[a.val] s.places[b.val] then (s, false)
  else (s.link a.val b.val, true)

end DisjointSets

end Prosopography
