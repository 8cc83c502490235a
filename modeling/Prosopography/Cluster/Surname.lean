import Prosopography.Cluster.Policy

/-!
# References by surname

A cluster whose key is `la X` or `le X` refers to a person by surname alone. It
is attached to the one full name with a similar surname and agreeing places, if
there is exactly one. Full names take over members while this goes on.
-/

namespace Prosopography.Cluster

/-- A key of two words or more that is not a reference. -/
def isFullName (c : Cluster) : Bool :=
  (Name.surnameReference? c.key.toList).isNone && 2 ≤ (Text.words c.key.toList).length

/-- The score of a full name for a reference by surname. -/
def surnameScore? (threshold : Float) (surname : List Char) (reference host : Cluster) :
    Option Float :=
  if host.isFullName then
    let score := Similarity.toFloat (Similarity.ratio (Name.familyName host.key.toList) surname)
    if threshold ≤ score ∧ host.compatible reference then some score else none
  else none

/-- Positions and scores of the full names that a reference fits. -/
def candidates (threshold : Float) (surname : List Char) (reference : Cluster)
    (others : List Cluster) : List (Nat × Float) :=
  others.zipIdx.filterMap fun (host, i) =>
    (surnameScore? threshold surname reference host).map fun score => (i, score)

/-- Decides the references of `todo` in order; the clusters of `done` stand before them. -/
def attachFrom (threshold : Float) (done todo : List Cluster) : Outcome :=
  match todo with
  | [] => ⟨done, []⟩
  | c :: rest =>
    match Name.surnameReference? c.key.toList with
    | none => attachFrom threshold (done ++ [c]) rest
    | some surname =>
      let others := done ++ rest
      let logged (a : Action) (i : Nat) (score : Float) : Decision :=
        ⟨a, (others[i]?.map (·.key)).getD "", c.key, score⟩
      match candidates threshold surname c others with
      | [(i, score)] =>
        let hosts := others.modify i (·.absorb c)
        let o := attachFrom threshold (hosts.take done.length) (hosts.drop done.length)
        { o with log := logged .attach i score :: o.log }
      | found =>
        let o := attachFrom threshold (done ++ [c]) rest
        { o with log := (found.map fun (i, score) => logged .ambiguous i score) ++ o.log }
termination_by todo.length

/-- Attaches the references of a list of clusters. -/
def attachSurnames (threshold : Float) (cs : List Cluster) : Outcome := attachFrom threshold [] cs

end Prosopography.Cluster
