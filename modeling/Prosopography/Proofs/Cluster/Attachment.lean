import Prosopography.Proofs.Cluster.Decisions
import Prosopography.Proofs.Cluster.Hosts
import Prosopography.Proofs.Cluster.Order

/-!
# Attaching references, end to end

Attaching walks over positions while clusters are taken away and others grow. Where it stands is
told by the hosts of the references behind it, and so are the clusters and the log it ends with.
-/

namespace Prosopography.Cluster

/-- What is decided on a reference that fits some hosts: if there is only one, it is attached. -/
def decisions {α : Type} (reference : Cluster) (hosts : List α) (f : α → Cluster) :
    List Decision :=
  hosts.map fun k =>
    ⟨if hosts.length = 1 then .attach else .ambiguous, (f k).key, reference.key,
      surnameScore reference (f k)⟩

variable {threshold : Float} {α : Type}

section Step

theorem surname_of_surnameReference? {c : Cluster} {name : List Char}
    (h : Name.surnameReference? c.key.toList = some name) : c.surname = name := by
  rw [surname, h, Option.getD_some]

theorem isFullName_iff {c : Cluster} :
    c.isFullName = true ↔ c.isReference = false ∧ 2 ≤ (Text.words c.key.toList).length := by
  simp [isFullName, isReference]

/-- The score of a host is given exactly if the reference fits it. -/
theorem surnameScore?_eq_ite {reference host : Cluster} {name : List Char}
    (h : Name.surnameReference? reference.key.toList = some name) :
    surnameScore? threshold name reference host =
      if Fits threshold reference host then some (surnameScore reference host) else none := by
  split
  · rename_i hfits
    rw [surnameScore?_eq_some_iff, isFullName_iff]
    refine ⟨⟨hfits.named, hfits.words⟩, ?_, hfits.similar, hfits.compatible⟩
    rw [surnameScore, surname_of_surnameReference? h]
  · rename_i hfits
    rw [Option.eq_none_iff_forall_not_mem]
    intro score hscore
    obtain ⟨hfull, rfl, hlow, hcompatible⟩ := surnameScore?_eq_some_iff.mp hscore
    obtain ⟨hnamed, hwords⟩ := isFullName_iff.mp hfull
    rw [← surname_of_surnameReference? h] at hlow
    refine hfits ⟨?_, hnamed, hwords, hlow, hcompatible⟩
    rw [surname_of_surnameReference? h]
    exact Name.surnameReference?_eq_some_iff.mp h

/-- Candidates are the elements that a reference fits, each with the position where it stands. -/
theorem exists_hits (threshold : Float) {reference : Cluster} {name : List Char}
    (h : Name.surnameReference? reference.key.toList = some name) (f : α → Cluster) (l : List α) :
    ∃ hits : List (α × Nat),
      hits.map Prod.fst = l.filter (fun a => Fits threshold reference (f a)) ∧
        (∀ e ∈ hits, l[e.2]? = some e.1) ∧
          candidates threshold name reference (l.map f) =
            hits.map fun e => (e.2, surnameScore reference (f e.1)) := by
  refine ⟨l.zipIdx.filter fun e => Fits threshold reference (f e.1), ?_, ?_, ?_⟩
  · have hfilter := List.filter_map (p := fun a => decide (Fits threshold reference (f a)))
      (f := Prod.fst) (l := l.zipIdx)
    rw [List.zipIdx_map_fst] at hfilter
    exact hfilter.symm
  · intro e he
    exact List.mem_zipIdx_iff_getElem?.mp (List.mem_of_mem_filter he)
  · rw [candidates, List.zipIdx_map]
    induction l.zipIdx with
    | nil => rfl
    | cons e rest ih =>
        rw [List.map_cons, List.filterMap_cons, ih, List.filter_cons]
        simp only [surnameScore?_eq_ite h]
        by_cases hfits : Fits threshold reference (f e.1) <;> simp [hfits]

/-- To change what stands at a position is to change the element that stands there. -/
theorem modify_map [DecidableEq α] (f : α → Cluster) (g : Cluster → Cluster) {l : List α} {i : Nat}
    {k : α} (hl : l.Nodup) (hk : l[i]? = some k) :
    (l.map f).modify i g = l.map (Function.update f k (g (f k))) := by
  apply List.ext_getElem?
  intro j
  rw [List.getElem?_modify, List.getElem?_map, List.getElem?_map]
  by_cases hij : i = j
  · subst hij
    simp [hk]
  · cases hj : l[j]? with
    | none => rfl
    | some a =>
        have hne : a ≠ k := by
          rintro rfl
          obtain ⟨hi, -⟩ := List.getElem?_eq_some_iff.mp hk
          exact hij ((List.getElem?_inj hi hl).mp (hk.trans hj.symm))
        simp [hij, hne]

/-- A reference that fits exactly one cluster is attached to it. -/
theorem attachFrom_of_fits_one [DecidableEq α] {f : α → Cluster} {c : Cluster}
    {done rest : List α} {k : α} (hnodup : (done ++ rest).Nodup)
    (h : ((done ++ rest).filter fun a => Fits threshold c (f a)) = [k]) :
    attachFrom threshold (done.map f) (c :: rest.map f) =
      let f' := Function.update f k ((f k).absorb c)
      let o := attachFrom threshold (done.map f') (rest.map f')
      ⟨o.clusters, decisions c [k] f ++ o.log⟩ := by
  have hk : k ∈ (done ++ rest).filter fun a => Fits threshold c (f a) := by rw [h]; simp
  have hfits : Fits threshold c (f k) := by simpa using (List.mem_filter.mp hk).2
  have hname := Name.surnameReference?_eq_some_iff.mpr hfits.bySurname
  obtain ⟨hits, hfst, hstands, hfound⟩ := exists_hits threshold hname f (done ++ rest)
  rw [h, List.map_eq_singleton_iff] at hfst
  obtain ⟨⟨_, i⟩, rfl, rfl⟩ := hfst
  have hi : (done ++ rest)[i]? = some _ := hstands _ (List.mem_singleton_self _)
  rw [attachFrom, hname, ← List.map_append]
  simp only [hfound, List.map_singleton, modify_map f _ hnodup hi, List.getElem?_map, hi,
    Option.map_some, Option.getD_some]
  simp [decisions]

/-- A cluster that is no reference, or fits no cluster or several ones, stays where it is. -/
theorem attachFrom_of_not_fits_one {f : α → Cluster} {c : Cluster} {done rest : List α}
    (h : ∀ k, ((done ++ rest).filter fun a => Fits threshold c (f a)) ≠ [k]) :
    attachFrom threshold (done.map f) (c :: rest.map f) =
      let o := attachFrom threshold (done.map f ++ [c]) (rest.map f)
      ⟨o.clusters,
        decisions c ((done ++ rest).filter fun a => Fits threshold c (f a)) f ++ o.log⟩ := by
  rw [attachFrom]
  cases hname : Name.surnameReference? c.key.toList with
  | none =>
      have hnone : ((done ++ rest).filter fun a => Fits threshold c (f a)) = [] := by
        rw [List.filter_eq_nil_iff]
        intro a _ hfits
        refine not_fits_of_left ?_ (of_decide_eq_true hfits)
        rw [isReference, hname, Option.isSome_none]
      rw [hnone]
      rfl
  | some name =>
      obtain ⟨hits, hfst, hstands, hfound⟩ := exists_hits threshold hname f (done ++ rest)
      have hmany : hits.length ≠ 1 := by
        intro hone
        obtain ⟨e, rfl⟩ := List.length_eq_one_iff.mp hone
        exact h e.1 hfst.symm
      dsimp only
      rw [← List.map_append, hfound, ← hfst]
      split
      · rename_i hsingle
        refine absurd ?_ hmany
        simpa using congrArg List.length hsingle
      · rw [decisions, List.length_map, if_neg hmany, List.map_map, List.map_map]
        congr 2
        apply List.map_congr_left
        intro e he
        simp only [Function.comp_apply, List.getElem?_map, hstands e he, Option.map_some,
          Option.getD_some]

end Step

section Hosts

variable {n : Nat} {f : Fin n → Cluster} {host : Fin n → Option (Fin n)}

/-- Those of some clusters that have no host, as they have grown. -/
def standing (f : Fin n → Cluster) (host : Fin n → Option (Fin n)) (past : List (Fin n)) :
    List Cluster :=
  (past.filter (host · == none)).map (grown f host past)

/-- The log names keys and scores, which do not change while hosts grow. -/
theorem decisions_grown (past : List (Fin n)) (r : Fin n) (hosts : List (Fin n)) :
    decisions (grown f host past r) hosts (grown f host past) = decisions (f r) hosts f := by
  simp only [decisions, key_grown, surnameScore_grown]

variable (hhost : HostsOf threshold f host)
include hhost

section Split

variable {past rest : List (Fin n)} {r : Fin n} (hsplit : past ++ r :: rest = List.finRange n)
include hsplit

/-- Those that are attached already, and the reference itself, are not what it looks for. -/
theorem filter_fits_eq_fitting :
    ((past.filter (host · == none) ++ rest).filter fun k =>
        Fits threshold (grown f host past r) (grown f host past k)) =
      fitting threshold f host r := by
  simp only [fits_grown_iff hhost]
  rw [fitting, before_eq hsplit, ← hsplit, List.filter_append, List.filter_append,
    List.filter_filter, List.filter_cons_of_neg]
  · congr 1
    apply List.filter_congr
    intro k _
    rw [Bool.and_eq_left_iff_imp]
    intro hfits
    have hnamed : (f k).isReference = false :=
      (isReference_grown past k).symm.trans (of_decide_eq_true hfits).named
    rw [host_eq_none_of_named hhost hnamed, beq_self_eq_true]
  · intro hfits
    have hfits := of_decide_eq_true hfits
    have hreference : (f r).isReference = true := isReference_iff.mpr hfits.bySurname
    exact not_fits_of_right ((isReference_grown past r).trans hreference) hfits

/-- A step goes from where the run stands before a position to where it stands after it. -/
theorem attachFrom_standing_cons :
    attachFrom threshold (standing f host past) ((r :: rest).map (grown f host past)) =
      let o := attachFrom threshold (standing f host (past ++ [r]))
        (rest.map (grown f host (past ++ [r])))
      ⟨o.clusters, decisions (f r) (fitting threshold f host r) f ++ o.log⟩ := by
  have hfitting := filter_fits_eq_fitting hhost hsplit
  rw [standing, standing, List.filter_append, List.filter_singleton, List.map_cons]
  cases hr : host r with
  | none =>
      have hother : ∀ k, fitting threshold f host r ≠ [k] := by
        intro k hk
        rw [(hhost r k).mpr hk] at hr
        cases hr
      rw [← hfitting] at hother
      rw [attachFrom_of_not_fits_one hother, hfitting, decisions_grown, grown_append_of_none hr,
        List.map_append]
      rfl
  | some k =>
      have hone : fitting threshold f host r = [k] := (hhost r k).mp hr
      have hreference : (f r).isReference = true :=
        isReference_iff.mpr (fits_of_host hhost hr).bySurname
      have hnodup : (past.filter (host · == none) ++ rest).Nodup := by
        have hsub : (past.filter (host · == none) ++ rest).Sublist (List.finRange n) := by
          rw [← hsplit]
          exact List.filter_sublist.append (List.sublist_cons_self r rest)
        exact hsub.nodup (List.nodup_finRange n)
      rw [attachFrom_of_fits_one hnodup (hfitting.trans hone), decisions_grown, hone,
        grown_of_isReference hhost hreference past, grown_append_of_some hr]
      simp

end Split

/-- From where it stands, the rest of the run is told by the hosts of those still to come. -/
theorem attachFrom_standing (past todo : List (Fin n)) (hsplit : past ++ todo = List.finRange n) :
    attachFrom threshold (standing f host past) (todo.map (grown f host past)) =
      ⟨standing f host (List.finRange n),
        todo.flatMap fun r => decisions (f r) (fitting threshold f host r) f⟩ := by
  induction todo generalizing past with
  | nil =>
      rw [List.append_nil] at hsplit
      subst hsplit
      rw [List.map_nil, attachFrom]
      rfl
  | cons r rest ih =>
      rw [attachFrom_standing_cons hhost hsplit,
        ih (past ++ [r]) (by rw [List.append_assoc, List.singleton_append, hsplit])]
      rfl

end Hosts

/-- Clusters whose references have been attached to their hosts. -/
structure Attached (threshold : Float) (cs : List Cluster)
    (host : Fin cs.length → Option (Fin cs.length)) (o : Outcome) : Prop where
  hosts : HostsOf threshold cs.get host
  clusters : o.clusters = standing cs.get host (List.finRange cs.length)
  log : o.log = (List.finRange cs.length).flatMap fun r =>
    decisions (cs.get r) (fitting threshold cs.get host r) cs.get
  /-- Every other cluster is there in its place, with its own members first. -/
  named : List.Forall₂ Continues (o.clusters.filter (!·.isReference)) (cs.filter (!·.isReference))
  /-- References that are not attached are left as they were. -/
  unattached : o.clusters.filter (·.isReference) =
    ((List.finRange cs.length).filter fun r => (cs.get r).isReference && host r == none).map cs.get
  count : o.clusters.length + o.log.count .attach = cs.length

section Report

variable {n : Nat} {f : Fin n → Cluster} {host : Fin n → Option (Fin n)}

/-- A host that has grown still begins with its own members. -/
theorem continues_grown (past : List (Fin n)) (k : Fin n) : (grown f host past k).Continues (f k) :=
  MergePolicy.continues_foldl_absorb _ _

variable (hhost : HostsOf threshold f host)
include hhost

/-- The clusters with full names stay in order, each with what was attached to it. -/
theorem named_standing :
    List.Forall₂ Continues
      ((standing f host (List.finRange n)).filter (!·.isReference))
      (((List.finRange n).map f).filter (!·.isReference)) := by
  have hnamed : ∀ r, (!(f r).isReference && host r == none) = !(f r).isReference := by
    intro r
    rw [Bool.and_eq_left_iff_imp, Bool.not_eq_true']
    intro hr
    rw [host_eq_none_of_named hhost hr, beq_self_eq_true]
  rw [standing, List.filter_map, List.filter_map, List.filter_filter]
  simp only [Function.comp_def, isReference_grown, hnamed]
  rw [List.forall₂_map_left_iff, List.forall₂_map_right_iff, List.forall₂_same]
  exact fun k _ => continues_grown _ k

/-- References without a host stay as they were. -/
theorem unattached_standing :
    (standing f host (List.finRange n)).filter (·.isReference) =
      ((List.finRange n).filter fun r => (f r).isReference && host r == none).map f := by
  rw [standing, List.filter_map, List.filter_filter]
  simp only [Function.comp_def, isReference_grown]
  apply List.map_congr_left
  intro r hr
  have hreference := (Bool.and_eq_true_iff.mp (List.mem_filter.mp hr).2).1
  exact grown_of_isReference hhost hreference _

end Report

/-- Attachment logs no merges. -/
theorem action_ne_merge_of_mem_decisions {α : Type} {reference : Cluster} {hosts : List α}
    {f : α → Cluster} {d : Decision} (hd : d ∈ decisions reference hosts f) :
    d.action ≠ .merge := by
  obtain ⟨k, -, rfl⟩ := List.mem_map.mp hd
  dsimp only
  split <;> simp

section Outcome

variable {cs : List Cluster} {host : Fin cs.length → Option (Fin cs.length)}
  (hhost : HostsOf threshold cs.get host)
include hhost

/-- The pass over the references gives the clusters and the log that the hosts describe. -/
theorem attachSurnames_eq :
    attachSurnames threshold cs = ⟨standing cs.get host (List.finRange cs.length),
      (List.finRange cs.length).flatMap fun r =>
        decisions (cs.get r) (fitting threshold cs.get host r) cs.get⟩ := by
  have hrun := attachFrom_standing hhost [] (List.finRange cs.length) rfl
  have hstart : grown cs.get host [] = cs.get := rfl
  rwa [hstart, List.map_get_finRange] at hrun

/-- The decisions on references merge nothing, so those that attach account for what is gone. -/
theorem length_add_count_attach :
    (attachSurnames threshold cs).clusters.length +
      (attachSurnames threshold cs).log.count .attach = cs.length := by
  have hmerge : (attachSurnames threshold cs).log.count .merge = 0 := by
    rw [Log.count, List.countP_eq_zero, attachSurnames_eq hhost]
    intro d hd
    obtain ⟨r, -, hd⟩ := List.mem_flatMap.mp hd
    simpa using action_ne_merge_of_mem_decisions hd
  have hcount : (attachSurnames threshold cs).AccountsFor cs := accountsFor_attachSurnames cs
  rwa [Outcome.AccountsFor, Log.unions_eq_count, hmerge, Nat.zero_add] at hcount

/-- The pass attaches as the hosts say. -/
theorem attached_attachSurnames : Attached threshold cs host (attachSurnames threshold cs) where
  hosts := hhost
  clusters := by rw [attachSurnames_eq hhost]
  log := by rw [attachSurnames_eq hhost]
  named := by
    have hnamed := named_standing hhost
    rw [List.map_get_finRange] at hnamed
    rwa [attachSurnames_eq hhost]
  unattached := by
    rw [attachSurnames_eq hhost]
    exact unattached_standing hhost
  count := length_add_count_attach hhost

end Outcome

/-- There is one way to assign hosts to references, and attaching follows it. -/
theorem existsUnique_attached (threshold : Float) (cs : List Cluster) :
    ∃! host, Attached threshold cs host (attachSurnames threshold cs) := by
  refine ⟨hostOf threshold cs.get, attached_attachSurnames hostsOf_hostOf, ?_⟩
  intro host h
  exact h.hosts.unique hostsOf_hostOf

/-- The town of the first reference keeps the second one away from the full name. -/
example :
    let cs := [ofMembers "odille thieriat" [("Odille Thieriat", none)],
      ofMembers "la thieriat" [("la Thieriat", some "Nancy")],
      ofMembers "le thieriat" [("le Thieriat", some "Metz")]]
    (attachSurnames 95.0 cs).clusters.map (·.members) =
        [["Odille Thieriat", "la Thieriat"], ["le Thieriat"]] ∧
      (attachSurnames 95.0 cs).log =
        [⟨.attach, "odille thieriat", "la thieriat", 100.0⟩] := by
  decide +kernel

end Prosopography.Cluster
