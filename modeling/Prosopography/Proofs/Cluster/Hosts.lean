import Prosopography.Proofs.Cluster.GreedyParts
import Prosopography.Proofs.Cluster.Surname
import Mathlib.Data.List.FinRange

/-!
# Hosts of references

Which reference belongs to which cluster, told position by position: a reference looks at the
other clusters as they have grown by the references before it, and its host is the one it fits,
if there is only one. There is exactly one way to assign hosts.
-/

namespace Prosopography.Cluster

/-- A cluster whose key gives a surname only. -/
def isReference (c : Cluster) : Bool := (Name.surnameReference? c.key.toList).isSome

/-- The surname that a reference gives. -/
def surname (c : Cluster) : List Char := (Name.surnameReference? c.key.toList).getD []

/-- References are the clusters whose keys give a surname. -/
theorem isReference_iff {c : Cluster} :
    c.isReference = true ↔ Name.GivesSurname c.key.toList c.surname := by
  rw [← Name.surnameReference?_eq_some_iff, isReference, surname]
  cases Name.surnameReference? c.key.toList <;> simp

/-- How similar the family name of a host is to the surname that a reference gives. -/
def surnameScore (reference host : Cluster) : Float :=
  Similarity.toFloat (Similarity.ratio (Name.familyName host.key.toList) reference.surname)

/-- A reference that may belong to a host. -/
structure Fits (threshold : Float) (reference host : Cluster) : Prop where
  bySurname : Name.GivesSurname reference.key.toList reference.surname
  named : host.isReference = false
  words : 2 ≤ (Text.words host.key.toList).length
  similar : threshold ≤ surnameScore reference host
  compatible : host.compatible reference = true

instance (threshold : Float) (reference host : Cluster) :
    Decidable (Fits threshold reference host) :=
  decidable_of_iff (reference.isReference = true ∧ host.isReference = false ∧
      2 ≤ (Text.words host.key.toList).length ∧ threshold ≤ surnameScore reference host ∧
        host.compatible reference = true)
    ⟨fun h => ⟨isReference_iff.mp h.1, h.2.1, h.2.2.1, h.2.2.2.1, h.2.2.2.2⟩,
      fun h => ⟨isReference_iff.mpr h.bySurname, h.named, h.words, h.similar, h.compatible⟩⟩

variable {threshold : Float}

/-- Only references belong to others. -/
theorem not_fits_of_left {c d : Cluster} (h : c.isReference = false) : ¬ Fits threshold c d :=
  fun hfits => Bool.noConfusion (h.symm.trans (isReference_iff.mpr hfits.bySurname))

/-- Nothing belongs to a reference. -/
theorem not_fits_of_right {c d : Cluster} (h : d.isReference = true) : ¬ Fits threshold c d :=
  fun hfits => Bool.noConfusion (h.symm.trans hfits.named)

variable {n : Nat}

/-- The positions before a position. -/
def before (r : Fin n) : List (Fin n) := (List.finRange n).filter (· < r)

theorem lt_of_mem_before {q r : Fin n} (h : q ∈ before r) : q < r :=
  of_decide_eq_true (List.mem_filter.mp h).2

theorem before_eq {past rest : List (Fin n)} {r : Fin n}
    (hsplit : past ++ r :: rest = List.finRange n) : before r = past := by
  have hsorted := List.pairwise_lt_finRange n
  rw [← hsplit, List.pairwise_append] at hsorted
  obtain ⟨-, hrest, hpast⟩ := hsorted
  rw [before, ← hsplit, List.filter_append, List.filter_eq_self.mpr, List.filter_eq_nil_iff.mpr,
    List.append_nil]
  · intro k hk
    rcases List.mem_cons.mp hk with rfl | hk
    · simp
    · simpa using (List.rel_of_pairwise_cons hrest hk).le
  · intro k hk
    simpa using hpast k hk r List.mem_cons_self

/-- A cluster with those of some others that are attached to it. -/
def grown (f : Fin n → Cluster) (host : Fin n → Option (Fin n)) (past : List (Fin n))
    (k : Fin n) : Cluster :=
  MergePolicy.absorbing f (f k) (past.filter (host · == some k))

/-- The clusters that a reference fits once those before it are attached to their hosts. -/
def fitting (threshold : Float) (f : Fin n → Cluster) (host : Fin n → Option (Fin n))
    (r : Fin n) : List (Fin n) :=
  (List.finRange n).filter fun k => Fits threshold (f r) (grown f host (before r) k)

/-- A reference has the host that it fits, if it fits only one. -/
def HostsOf (threshold : Float) (f : Fin n → Cluster) (host : Fin n → Option (Fin n)) : Prop :=
  ∀ r k, host r = some k ↔ fitting threshold f host r = [k]

variable {f : Fin n → Cluster} {host : Fin n → Option (Fin n)}

@[simp] theorem key_grown (past : List (Fin n)) (k : Fin n) :
    (grown f host past k).key = (f k).key :=
  MergePolicy.key_absorbing f _ _

@[simp] theorem isReference_grown (past : List (Fin n)) (k : Fin n) :
    (grown f host past k).isReference = (f k).isReference := by
  rw [isReference, key_grown, isReference]

@[simp] theorem surnameScore_grown (past past' : List (Fin n)) (r k : Fin n) :
    surnameScore (grown f host past r) (grown f host past' k) = surnameScore (f r) (f k) := by
  rw [surnameScore, surname, key_grown, key_grown, surnameScore, surname]

theorem grown_append_of_none {past : List (Fin n)} {r : Fin n} (h : host r = none) :
    grown f host (past ++ [r]) = grown f host past := by
  funext k
  rw [grown, List.filter_append, List.filter_singleton, h]
  simp [grown]

/-- A reference with a host makes that host grow. -/
theorem grown_append_of_some {past : List (Fin n)} {r k : Fin n} (h : host r = some k) :
    grown f host (past ++ [r]) =
      Function.update (grown f host past) k ((grown f host past k).absorb (f r)) := by
  funext j
  rw [grown, List.filter_append, List.filter_singleton, h]
  by_cases hj : j = k
  · subst hj
    simp [grown, MergePolicy.absorbing]
  · simp [grown, hj, beq_false_of_ne (Ne.symm hj)]

section Assigned

variable (hhost : HostsOf threshold f host)
include hhost

/-- A reference fits its host as the host has grown before it. -/
theorem fits_of_host {r k : Fin n} (h : host r = some k) :
    Fits threshold (f r) (grown f host (before r) k) := by
  have hk : k ∈ fitting threshold f host r := by
    rw [(hhost r k).mp h]
    exact List.mem_singleton_self k
  exact of_decide_eq_true (List.mem_filter.mp hk).2

/-- A full name is attached to no one. -/
theorem host_eq_none_of_named {k : Fin n} (h : (f k).isReference = false) : host k = none := by
  cases hk : host k with
  | none => rfl
  | some j => exact absurd (fits_of_host hhost hk) (not_fits_of_left h)

/-- Nothing is attached to a reference. -/
theorem grown_of_isReference {k : Fin n} (h : (f k).isReference = true) (past : List (Fin n)) :
    grown f host past k = f k := by
  have hnone : past.filter (host · == some k) = [] := by
    rw [List.filter_eq_nil_iff]
    intro r _ hr
    exact not_fits_of_right ((isReference_grown _ k).trans h) (fits_of_host hhost (eq_of_beq hr))
  rw [grown, hnone, MergePolicy.absorbing_nil]

/-- Whether a reference fits does not depend on what it has grown to itself. -/
theorem fits_grown_iff {past : List (Fin n)} {r : Fin n} {c : Cluster} :
    Fits threshold (grown f host past r) c ↔ Fits threshold (f r) c := by
  cases hr : (f r).isReference with
  | true => rw [grown_of_isReference hhost hr]
  | false =>
      exact iff_of_false (not_fits_of_left ((isReference_grown past r).trans hr))
        (not_fits_of_left hr)

end Assigned

/-- A reference sees what those before it have done, and nothing else. -/
theorem fitting_congr {host' : Fin n → Option (Fin n)} {r : Fin n}
    (h : ∀ q, q < r → host q = host' q) :
    fitting threshold f host r = fitting threshold f host' r := by
  have hgrown : ∀ k, grown f host (before r) k = grown f host' (before r) k := by
    intro k
    rw [grown, grown]
    congr 1
    apply List.filter_congr
    intro q hq
    rw [h q (lt_of_mem_before hq)]
  simp only [fitting, hgrown]

/-- The hosts of references, from the first one on. -/
def hostOf (threshold : Float) (f : Fin n → Cluster) (r : Fin n) : Option (Fin n) :=
  match fitting threshold f (fun q => if _h : q < r then hostOf threshold f q else none) r with
  | [k] => some k
  | _ => none
termination_by r.val

/-- The hosts computed in order are the hosts that the rules describe. -/
theorem hostsOf_hostOf : HostsOf threshold f (hostOf threshold f) := by
  intro r k
  have hseen : fitting threshold f (hostOf threshold f) r =
      fitting threshold f (fun q => if _h : q < r then hostOf threshold f q else none) r :=
    fitting_congr fun q hq => by rw [dif_pos hq]
  rw [hseen, hostOf]
  split
  · rename_i j hj
    rw [hj, List.cons.injEq, Option.some.injEq, eq_self_iff_true, and_true]
  · rename_i hother
    simpa using hother k

/-- There is only one way to assign hosts. -/
theorem HostsOf.unique {host' : Fin n → Option (Fin n)} (h : HostsOf threshold f host)
    (h' : HostsOf threshold f host') : host = host' := by
  funext r
  induction r using WellFoundedLT.induction with
  | ind r ih =>
      apply Option.ext
      intro k
      rw [h r k, h' r k, fitting_congr ih]

end Prosopography.Cluster
