import Prosopography.Cluster.Greedy
import Prosopography.Proofs.Cluster.Members
import Prosopography.Proofs.Cluster.Policy

/-!
# What greedy merging keeps

No member is lost or repeated, and an output cluster is an input cluster that has
absorbed other input clusters, each of them accepted under its first key.
-/

namespace Prosopography.MergePolicy

open Cluster
open scoped List

variable (p : MergePolicy)

theorem left_sweep_sublist (target : Cluster) (cs : List Cluster) :
    (p.sweep target cs).left.Sublist cs := by
  induction cs generalizing target with
  | nil => exact .refl _
  | cons c rest ih =>
      rw [sweep]
      split
      · exact (ih _).cons c
      · exact (ih _).cons_cons c

/-- A sweep loses no member and adds none. -/
theorem members_sweep_perm (target : Cluster) (cs : List Cluster) :
    (p.sweep target cs).target.members ++ allMembers (p.sweep target cs).left ~
      target.members ++ allMembers cs := by
  induction cs generalizing target with
  | nil => exact .refl _
  | cons c rest ih =>
      rw [sweep]
      split
      · have hstep := ih (target.absorb c)
        rwa [members_absorb, List.append_assoc] at hstep
      · calc
          (p.sweep target rest).target.members ++
                (c.members ++ allMembers (p.sweep target rest).left) ~
              c.members ++ ((p.sweep target rest).target.members ++
                allMembers (p.sweep target rest).left) := List.perm_append_comm_assoc ..
          _ ~ c.members ++ (target.members ++ allMembers rest) := (ih target).append_left _
          _ ~ target.members ++ (c.members ++ allMembers rest) := List.perm_append_comm_assoc ..

/-- Greedy merging moves members from cluster to cluster and does nothing else to them. -/
theorem members_mergeGreedy_perm (cs : List Cluster) :
    allMembers (p.mergeGreedy cs).clusters ~ allMembers cs := by
  induction cs using mergeGreedy.induct p with
  | case1 => rw [mergeGreedy]
  | case2 c rest s ih =>
      rw [mergeGreedy]
      exact (ih.append_left _).trans (p.members_sweep_perm c rest)

section Invariant

variable {p} {P Q : Cluster → Prop}
  (absorb : ∀ c d, Q c → P d → (p.accepts? c d).isSome = true → Q (c.absorb d))
include absorb

/-- A property of targets survives a sweep if it survives each absorption. -/
theorem sweep_target {target : Cluster} (htarget : Q target) {cs : List Cluster}
    (h : ∀ c ∈ cs, P c) : Q (p.sweep target cs).target := by
  induction cs generalizing target with
  | nil => exact htarget
  | cons c rest ih =>
      have hc : P c := h c List.mem_cons_self
      have hrest : ∀ d ∈ rest, P d := fun d hd => h d (List.mem_cons_of_mem c hd)
      rw [sweep]
      split
      · rename_i hscore
        exact ih (absorb target c htarget hc (by simp [hscore])) hrest
      · exact ih htarget hrest

/-- What input clusters have and accepted clusters do not take away, output clusters have. -/
theorem mergeGreedy_forall (start : ∀ c, P c → Q c) {cs : List Cluster} (h : ∀ c ∈ cs, P c) :
    ∀ c ∈ (p.mergeGreedy cs).clusters, Q c := by
  induction cs using mergeGreedy.induct p with
  | case1 => simp [mergeGreedy]
  | case2 c rest s ih =>
      have hrest : ∀ d ∈ rest, P d := fun d hd => h d (List.mem_cons_of_mem c hd)
      have htarget : Q s.target := sweep_target absorb (start c (h c List.mem_cons_self)) hrest
      have hleft : ∀ d ∈ s.left, P d :=
        fun d hd => hrest d ((p.left_sweep_sublist c rest).subset hd)
      rw [mergeGreedy]
      intro d hd
      rcases List.mem_cons.mp hd with rfl | hd
      · exact htarget
      · exact ih hleft d hd

end Invariant

end Prosopography.MergePolicy
