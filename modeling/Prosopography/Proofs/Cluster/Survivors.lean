import Prosopography.Resolution
import Prosopography.Proofs.Cluster.Agreement
import Prosopography.Proofs.Cluster.Order

/-!
# Which clusters a log names

Greedy merging logs the key of a cluster that is left. Transitive merging logs the pair it
has compared, and the first of the two need not be left. Where keys differ, it names
clusters that are left only if it returns what greedy merging returns.
-/

namespace Prosopography

/-- A decision names a cluster that is left and one that this has absorbed. -/
def Decision.NamesSurvivor (d : Decision) (cs out : List Cluster) : Prop :=
  ∃ o ∈ out, o.key = d.kept ∧ ∃ c ∈ cs, c.key = d.other ∧ ∀ v ∈ c.members, v ∈ o.members

instance (d : Decision) (cs out : List Cluster) : Decidable (d.NamesSurvivor cs out) :=
  inferInstanceAs (Decidable (∃ o ∈ out, o.key = d.kept ∧
    ∃ c ∈ cs, c.key = d.other ∧ ∀ v ∈ c.members, v ∈ o.members))

/-- Every merge in the log names a cluster that is left. -/
def Outcome.NamesSurvivors (o : Outcome) (cs : List Cluster) : Prop :=
  ∀ d ∈ o.log, d.action = .merge → d.NamesSurvivor cs o.clusters

instance (o : Outcome) (cs : List Cluster) : Decidable (o.NamesSurvivors cs) :=
  inferInstanceAs (Decidable (∀ d ∈ o.log, d.action = .merge → d.NamesSurvivor cs o.clusters))

namespace MergePolicy

/-- A decision names the keys of its pair, in the order of the pair. -/
theorem eq_of_decision?_eq_some {p : MergePolicy} {a b : String} {d : Decision}
    (h : p.decision? a b = some d) : d.action = .merge ∧ d.kept = a ∧ d.other = b := by
  obtain ⟨score, -, rfl⟩ := Option.map_eq_some_iff.mp h
  exact ⟨rfl, rfl, rfl⟩

/-- A sweep logs the key of its target, which is left. -/
theorem namesSurvivors_mergeGreedy (p : MergePolicy) (cs : List Cluster) :
    (p.mergeGreedy cs).NamesSurvivors cs := by
  have hgreedy := p.mergeGreedy_map id cs
  rw [List.map_id] at hgreedy
  intro d hd _
  rw [hgreedy] at hd ⊢
  obtain ⟨g, hg, hd⟩ := List.mem_flatMap.mp hd
  obtain ⟨c, hc, hd⟩ := List.mem_filterMap.mp hd
  obtain ⟨-, hkept, hother⟩ := eq_of_decision?_eq_some hd
  have hcs : c ∈ cs := (sublist_of_mem_greedyParts hg).subset (List.mem_cons_of_mem _ hc)
  refine ⟨_, List.mem_map_of_mem hg, ?_, c, hcs, hother.symm, ?_⟩
  · rw [key_absorbing, hkept]
  · intro v hv
    rw [absorbing, List.map_id, members_foldl_absorb]
    exact List.mem_append_right _ (List.mem_flatMap.mpr ⟨c, hc, hv⟩)

variable {p : MergePolicy} {n : Nat} {f : Fin n → Cluster}

/-- A component of sorted positions starts with its root. -/
theorem WholeStars.head?_group {s : DisjointSets n} {l : List (Fin n)} (h : WholeStars s l)
    {g : Fin n × List (Fin n)} (hg : g ∈ groupBy s.root l) :
    s.root g.1 = g.1 ∧ g.2.head? = some g.1 := by
  induction l using groupBy_induction s.root with
  | nil => simp [groupBy_nil] at hg
  | cons a rest ih =>
      rw [groupBy_cons, h.root_head] at hg
      rw [h.root_head] at ih
      rcases List.mem_cons.mp hg with rfl | hg
      · exact ⟨h.root_head, rfl⟩
      · exact ih h.filter hg

/-- Merged clusters go by the keys of roots. -/
theorem exists_root_home (p : MergePolicy) (cs : List Cluster)
    (k : Fin (p.mergeTransitive cs).clusters.length) :
    ∃ i, (p.sets cs).root i = i ∧ p.home cs i = k ∧
      ((p.mergeTransitive cs).clusters.get k).key = (cs.get i).key := by
  obtain ⟨j, rfl⟩ := p.home_surjective cs k
  have hhome : p.home cs ((p.sets cs).root j) = p.home cs j :=
    home_eq_iff.mpr ((p.sets cs).root_root j)
  have hfilter : (List.finRange cs.length).filter (p.home cs · == p.home cs j) =
      (List.finRange cs.length).filter ((p.sets cs).root · == (p.sets cs).root j) := by
    apply List.filter_congr
    intro i _
    rw [Bool.eq_iff_iff, beq_iff_eq, beq_iff_eq, home_eq_iff]
  have hgroup : ((p.sets cs).root j,
      (List.finRange cs.length).filter ((p.sets cs).root · == (p.sets cs).root j)) ∈
        groupBy (p.sets cs).root (List.finRange cs.length) := by
    rw [groupBy_eq_map_labels]
    exact List.mem_map_of_mem (p.root_mem_labels cs j)
  obtain ⟨-, hhead⟩ := (WholeStars.finRange (p.sets cs)).head?_group hgroup
  refine ⟨(p.sets cs).root j, (p.sets cs).root_root j, hhome, ?_⟩
  apply (continues_gather _ (p.gather_home cs (p.home cs j))).key
  rw [hfilter, List.head?_map, hhead, Option.map_some]

theorem exists_root_of_mem_mergeTransitive {cs : List Cluster} {o : Cluster}
    (h : o ∈ (p.mergeTransitive cs).clusters) :
    ∃ i, (p.sets cs).root i = i ∧ (cs.get i).key = o.key := by
  obtain ⟨k, rfl⟩ := List.get_of_mem h
  obtain ⟨i, hi, -, hkey⟩ := p.exists_root_home cs k
  exact ⟨i, hi, hkey.symm⟩

/-- A cluster under the key of a position, with the places of those before `j` that are joined
to it. -/
structure GathersBefore (f : Fin n → Cluster) (root : Fin n → Fin n) (i j : Fin n) (c : Cluster) :
    Prop where
  key : c.key = (f i).key
  mem_places : ∀ x, x ∈ c.places.toList ↔ ∃ k, k < j ∧ root k = i ∧ x ∈ (f k).places.toList

/-- Clusters are gathered by what the roots before a position are. -/
theorem GathersBefore.of_forall_lt {root root' : Fin n → Fin n} {i j : Fin n} {c : Cluster}
    (h : GathersBefore f root i j c) (hroot : ∀ k, k < j → (root k = i ↔ root' k = i)) :
    GathersBefore f root' i j c where
  key := h.key
  mem_places x := by
    rw [h.mem_places]
    exact exists_congr fun k => and_congr_right fun hk => and_congr_left' (hroot k hk)

/-- A root has joined a later position exactly if a sweep would, unless an earlier one has. -/
def Decided (p : MergePolicy) (f : Fin n → Cluster) (root : Fin n → Fin n) (i j : Fin n) : Prop :=
  root j < i ∨ ∀ c, GathersBefore f root i j c → ((p.accepts? c (f j)).isSome = true ↔ root j = i)

variable (p) in
/-- Stars whose roots have decided about later positions as a sweep does. -/
structure Swept (f : Fin n → Cluster) (done : List (Fin n × Fin n))
    (state : DisjointSets n × Log) : Prop where
  stars : p.Stars f done state
  decided : ∀ i j, (i, j) ∈ done → state.1.root i = i → p.Decided f state.1.root i j

/-- Every decision taken so far names a position that is still a root. -/
def NamesRoots (f : Fin n → Cluster) (state : DisjointSets n × Log) : Prop :=
  ∀ d ∈ state.2, ∃ i, state.1.root i = i ∧ (f i).key = d.kept

namespace Swept

variable {done todo : List (Fin n × Fin n)} {state : DisjointSets n × Log} {i j : Fin n}
  (h : p.Swept f done state) (hpairs : pairs n = done ++ (i, j) :: todo)
include h hpairs

/-- Two roots agree on places if what the first one has gathered agrees with the second one. -/
theorem compatible_eq (hij : i < j) (hi : state.1.root i = i) (hj : state.1.root j = j)
    {c : Cluster} (hc : GathersBefore f state.1.root i j c) :
    c.compatible (f j) = Cluster.placesAgree (state.1.placesOf i) (state.1.placesOf j) := by
  apply Cluster.placesAgree_congr
  · intro x
    rw [hc.mem_places, h.stars.joined.mem_placesOf, hi]
    constructor
    · rintro ⟨k, -, hk, hx⟩
      exact ⟨k, hk, hx⟩
    · rintro ⟨k, hk, hx⟩
      exact ⟨k, h.stars.lt_of_root_eq hpairs hij hk, hk, hx⟩
  · intro x
    rw [h.stars.joined.mem_placesOf, hj]
    constructor
    · intro hx
      exact ⟨j, hj, hx⟩
    · rintro ⟨k, hk, hx⟩
      obtain rfl := h.stars.eq_of_root_eq hpairs hij hk
      exact hx

/-- A pair that is passed over: no root changes and nothing is logged. -/
theorem pass {t : DisjointSets n} (hroot : ∀ k, t.root k = state.1.root k)
    (hjoined : p.Joined f (done ++ [(i, j)]) t) (hij : i < j)
    (hdecided : state.1.root i = i → p.Decided f state.1.root i j) :
    p.Swept f (done ++ [(i, j)]) (t, state.2) where
  stars := h.stars.pass hpairs hroot hjoined hij
  decided k l hkl hk := by
    have hfun : t.root = state.1.root := funext hroot
    simp only [hfun] at hk ⊢
    rcases List.mem_append.mp hkl with hdone | hnew
    · exact h.decided k l hdone hk
    · obtain ⟨rfl, rfl⟩ : k = i ∧ l = j := by simpa using hnew
      exact hdecided hk

/-- A pair without a score changes nothing. -/
theorem skip (hij : i < j) (hscore : p.nameScore? (f i).key (f j).key = none) :
    p.Swept f (done ++ [(i, j)]) state := by
  apply h.pass hpairs (fun _ => rfl) _ hij
  · intro _
    refine .inr fun c hc => ?_
    rw [accepts?, hc.key, hscore]
    simp [h.stars.root_ne hpairs hij]
  · exact h.stars.joined.settle fun hacc => absurd hacc.2 (by simp [hscore])

/-- A refused union keeps the forest swept. -/
theorem refuse (hacc : p.Accepted f i j) (hres : (state.1.union i j).2 = false) :
    p.Swept f (done ++ [(i, j)]) ((state.1.union i j).1, state.2) := by
  obtain ⟨hroot, -⟩ := state.1.union_refused hres
  apply h.pass hpairs hroot (h.stars.joined.step hacc) hacc.1
  intro hi
  rcases h.stars.root_eq_or_lt hpairs with hj | hj
  · refine .inr fun c hc => ?_
    have hne : state.1.root i ≠ state.1.root j := by
      rw [hi, hj]
      exact hacc.1.ne
    have hdisagree : c.compatible (f j) = false := by
      rw [h.compatible_eq hpairs hacc.1 hi hj hc]
      exact state.1.placesAgree_of_refused hres hne
    simp [isSome_accepts?_iff, hdisagree, h.stars.root_ne hpairs hacc.1]
  · exact .inl hj

/-- What roots have decided stays decided when a root moves to an earlier one. -/
theorem decided_of_moved (hij : i < j) (hj : state.1.root j = j) {k l : Fin n}
    (hkl : (k, l) ∈ done) (hkj : k ≠ j) (hk : state.1.root k = k) :
    p.Decided f (fun m => if m = j then i else state.1.root m) k l := by
  have hlt : k < l := ((mem_done_iff hpairs).mp hkl).1
  by_cases hlj : l = j
  · -- An earlier row has come to `j` and left it alone.
    subst hlj
    have hki : k < i := lt_of_mem_done hpairs hkl
    rcases h.decided k l hkl hk with hl | hl
    · exact absurd (hj ▸ hl) hlt.asymm
    · refine .inr fun c hc => ?_
      have hc : GathersBefore f state.1.root k l c :=
        hc.of_forall_lt fun m hm => by rw [if_neg hm.ne]
      simp [hl c hc, hj, hlt.ne', hki.ne']
  · have hsame : ∀ m, m < l → ((if m = j then i else state.1.root m) = k ↔ state.1.root m = k) := by
      intro m hm
      split
      · rename_i hmj
        subst hmj
        -- The row of `i` has not come beyond `j`.
        have hik : i ≠ k := by
          rintro rfl
          rcases ((mem_done_iff hpairs).mp hkl).2 with hlt' | ⟨-, hlm⟩
          · exact lt_irrefl i hlt'
          · exact hlm.asymm hm
        simp [hik, hj, Ne.symm hkj]
      · rfl
    rcases h.decided k l hkl hk with hl | hl
    · exact .inl (by simpa [hlj] using hl)
    · refine .inr fun c hc => ?_
      simp only [if_neg hlj]
      exact hl c (hc.of_forall_lt hsame)

/-- A union of two roots keeps the forest swept. -/
theorem join (hacc : p.Accepted f i j) (hi : state.1.root i = i) (hj : state.1.root j = j)
    (hres : (state.1.union i j).2 = true) {d : Decision}
    (hd : p.decision? (f i).key (f j).key = some d) :
    p.Swept f (done ++ [(i, j)]) ((state.1.union i j).1, state.2 ++ [d]) where
  stars := h.stars.join hpairs hj hi hacc hres hd
  decided k l hkl hk := by
    have hroot : (state.1.union i j).1.root = fun m => if m = j then i else state.1.root m :=
      funext (h.stars.root_union hpairs hj hi hacc hres)
    simp only [hroot] at hk ⊢
    rcases List.mem_append.mp hkl with hdone | hnew
    · have hkj : k ≠ j := by
        rintro rfl
        rw [if_pos rfl] at hk
        exact hacc.1.ne hk
      rw [if_neg hkj] at hk
      exact h.decided_of_moved hpairs hacc.1 hj hdone hkj hk
    · obtain ⟨rfl, rfl⟩ : k = i ∧ l = j := by simpa using hnew
      refine .inr fun c hc => ?_
      have hc' : GathersBefore f state.1.root k l c :=
        hc.of_forall_lt fun m hm => by rw [if_neg hm.ne]
      have hcompatible : c.compatible (f l) = true := by
        rw [h.compatible_eq hpairs hacc.1 hi hj hc']
        exact ((state.1.union_snd k l).mp hres).2
      simp [isSome_accepts?_iff, hc.key, isSome_nameScore?_iff.mp hacc.2, hcompatible]

end Swept

/-- Naming roots is lost for good when a root that was named moves. -/
theorem NamesRoots.of_union {s : DisjointSets n} {log log' : Log} {i j : Fin n}
    (h : NamesRoots f ((s.union i j).1, log ++ log')) : NamesRoots f (s, log) := by
  intro d hd
  obtain ⟨k, hk, hkey⟩ := h d (List.mem_append_left _ hd)
  exact ⟨k, s.root_of_root_union hk, hkey⟩

/-- A log that names roots only is that of sweeps. -/
theorem swept_joinAll (cs : Vector Cluster n)
    (hkeys : ∀ i j, (cs.get i).key = (cs.get j).key → i = j)
    (hnames : NamesRoots cs.get (p.joinAll cs)) : p.Swept cs.get (pairs n) (p.joinAll cs) := by
  revert hnames
  apply joinAll_run cs
    (motive := fun done state => NamesRoots cs.get state → p.Swept cs.get done state)
  · intro _
    exact ⟨.singletons cs, fun i j hij => absurd hij List.not_mem_nil⟩
  · intro done todo state i j hpairs ih hnames
    have hij : i < j := mem_pairs.mp (hpairs ▸ List.mem_append_right _ List.mem_cons_self)
    cases hscore : p.nameScore? (cs.get i).key (cs.get j).key with
    | none =>
        rw [joinPair_of_none hscore] at hnames ⊢
        exact (ih hnames).skip hpairs hij hscore
    | some score =>
        have hacc : p.Accepted cs.get i j := ⟨hij, by rw [hscore]; rfl⟩
        have hd : p.decision? (cs.get i).key (cs.get j).key =
            some ⟨.merge, (cs.get i).key, (cs.get j).key, score⟩ := by
          rw [decision?, hscore, Option.map_some]
        rw [joinPair_of_some hscore] at hnames ⊢
        cases hres : (state.1.union i j).2 with
        | false =>
            rw [hres, if_neg Bool.false_ne_true] at hnames
            rw [← List.append_nil state.2] at hnames
            exact (ih hnames.of_union).refuse hpairs hacc hres
        | true =>
            rw [hres, if_pos rfl] at hnames
            have hswept := ih hnames.of_union
            -- The first position is named, so the union has left it a root.
            obtain ⟨k, hk, hkey⟩ := hnames _ (List.mem_append_right _ List.mem_cons_self)
            obtain rfl := hkeys k i hkey
            obtain ⟨hi, hj⟩ := hswept.stars.roots_of_root_union hpairs hres hk
            exact hswept.join hpairs hacc hi hj hres hd

theorem Swept.sweepsStars {state : DisjointSets n × Log} (h : p.Swept f (pairs n) state) :
    p.SweepsStars f state.1 := by
  intro a before j after hl
  have hmem : j ∈ before ++ j :: after := List.mem_append_right _ List.mem_cons_self
  have hpair : (a, j) ∈ pairs n := mem_pairs.mpr (hl.lt_of_mem hmem)
  rcases h.decided a j hpair hl.root_head with hj | hj
  · exact absurd (hl.le_root hmem) hj.not_ge
  · exact hj _ ⟨key_absorbing .., fun x => hl.mem_places_iff⟩

variable {cs : List Cluster}

/-- Stars that are swept are what both strategies return. -/
theorem mergeGreedy_eq_of_swept
    (h : p.Swept cs.get (pairs cs.length) (p.joinAll ⟨cs.toArray, List.size_toArray⟩)) :
    p.mergeGreedy cs = p.mergeTransitive cs := by
  have hgreedy := p.mergeGreedy_map cs.get (List.finRange cs.length)
  rw [List.map_get_finRange] at hgreedy
  have hparts : p.parts cs =
      (p.greedyParts cs.get (List.finRange cs.length)).map fun g => (g.1, g.1 :: g.2) :=
    (h.sweepsStars.greedyParts_eq (.finRange _)).symm
  have hclusters : (p.mergeTransitive cs).clusters =
      (p.greedyParts cs.get (List.finRange cs.length)).map fun g =>
        absorbing cs.get (cs.get g.1) g.2 := by
    rw [clusters_mergeTransitive, hparts, List.filterMap_map]
    exact congrFun List.filterMap_eq_map' _
  rw [hgreedy]
  exact congrArg₂ Outcome.mk hclusters.symm (h.sweepsStars.greedyLog_eq h.stars)

/-- Transitive merging logs pairs that it joins. -/
theorem exists_pair_of_mem_joinAll {cs : Vector Cluster n} {d : Decision}
    (h : d ∈ (p.joinAll cs).2) :
    ∃ i j, i < j ∧ p.decision? (cs.get i).key (cs.get j).key = some d ∧
      (p.joinAll cs).1.root i = (p.joinAll cs).1.root j := by
  revert d
  apply joinAll_run (p := p) cs (motive := fun _ state => ∀ {d}, d ∈ state.2 →
    ∃ i j, i < j ∧ p.decision? (cs.get i).key (cs.get j).key = some d ∧
      state.1.root i = state.1.root j)
  · intro d hd
    exact absurd hd List.not_mem_nil
  · intro done todo state i j hpairs ih d hd
    have hij : i < j := mem_pairs.mp (hpairs ▸ List.mem_append_right _ List.mem_cons_self)
    cases hscore : p.nameScore? (cs.get i).key (cs.get j).key with
    | none =>
        rw [joinPair_of_none hscore] at hd ⊢
        exact ih hd
    | some score =>
        rw [joinPair_of_some hscore] at hd ⊢
        have hold : d ∈ state.2 → ∃ k l, k < l ∧
            p.decision? (cs.get k).key (cs.get l).key = some d ∧
              (state.1.union i j).1.root k = (state.1.union i j).1.root l := by
          intro hd
          obtain ⟨k, l, hkl, hdecision, hroot⟩ := ih hd
          exact ⟨k, l, hkl, hdecision, state.1.root_union_congr hroot⟩
        cases hres : (state.1.union i j).2 with
        | false =>
            rw [hres, if_neg Bool.false_ne_true] at hd
            exact hold hd
        | true =>
            rw [hres, if_pos rfl] at hd
            rcases List.mem_append.mp hd with hd | hd
            · exact hold hd
            · rw [List.mem_singleton.mp hd]
              exact ⟨i, j, hij, by rw [decision?, hscore, Option.map_some],
                state.1.root_union_eq_root_union hres⟩

/-- Where keys differ, transitive merging names survivors only if it merges greedily. -/
theorem mergeGreedy_eq_of_namesSurvivors (hkeys : (cs.map (·.key)).Nodup)
    (h : (p.mergeTransitive cs).NamesSurvivors cs) : p.mergeGreedy cs = p.mergeTransitive cs := by
  have hinjective : ∀ i j : Fin cs.length, (cs.get i).key = (cs.get j).key → i = j := by
    intro i j hkey
    have hget : cs.get i = cs.get j :=
      List.inj_on_of_nodup_map hkeys (List.get_mem cs i) (List.get_mem cs j) hkey
    exact List.nodup_iff_injective_get.mp hkeys.of_map hget
  have hnames : NamesRoots cs.get (p.joinAll ⟨cs.toArray, List.size_toArray⟩) := by
    intro d hd
    obtain ⟨_, _, -, hdecision, -⟩ := exists_pair_of_mem_joinAll hd
    obtain ⟨o, ho, hkey, -⟩ := h d hd (eq_of_decision?_eq_some hdecision).1
    obtain ⟨i, hi, hikey⟩ := exists_root_of_mem_mergeTransitive ho
    exact ⟨i, hi, hikey.trans hkey⟩
  exact mergeGreedy_eq_of_swept (swept_joinAll ⟨cs.toArray, List.size_toArray⟩ hinjective hnames)

end MergePolicy

namespace Settings

/-- The log of a merge names survivors if the merge is a greedy one, and where keys differ only
then. -/
theorem namesSurvivors_merge (s : Settings) (cs : List Cluster) :
    (s.merge cs = s.policy.mergeGreedy cs → (s.merge cs).NamesSurvivors cs) ∧
      ((cs.map (·.key)).Nodup → (s.merge cs).NamesSurvivors cs →
        s.merge cs = s.policy.mergeGreedy cs) := by
  constructor
  · intro h
    rw [h]
    exact s.policy.namesSurvivors_mergeGreedy cs
  · intro hkeys h
    rw [merge] at h ⊢
    cases hs : s.strategy with
    | greedy => rfl
    | transitive =>
        rw [hs] at h
        exact (MergePolicy.mergeGreedy_eq_of_namesSurvivors hkeys h).symm

/-- Three names, of which transitive merging compares the last one with the second. -/
def threeColins : List Cluster :=
  [.ofMembers "marie anne colin" [("Marie Anne Colin", none)],
   .ofMembers "marie colin" [("Marie Colin", none)],
   .ofMembers "marie colin jeanne" [("Marie Colin Jeanne", none)]]

/-- The standard settings with the transitive strategy. -/
def standardTransitive : Settings := { standard with strategy := .transitive }

/-- Two names, of which the transitive strategy names the survivor. -/
theorem namesSurvivors_merge_twoColins :
    (standardTransitive.merge (threeColins.take 2)).NamesSurvivors (threeColins.take 2) ∧
      standardTransitive.merge (threeColins.take 2) =
        standardTransitive.policy.mergeGreedy (threeColins.take 2) := by
  have hkeys : ((threeColins.take 2).map (·.key)).Nodup := by decide +kernel
  have hnames : (standardTransitive.merge (threeColins.take 2)).NamesSurvivors
      (threeColins.take 2) := by decide +kernel
  exact ⟨hnames, (namesSurvivors_merge _ _).2 hkeys hnames⟩

/-- The second decision names `marie colin`, which the first one has absorbed. -/
theorem not_namesSurvivors_threeColins :
    ¬ (standardTransitive.merge threeColins).NamesSurvivors threeColins := by
  decide +kernel

end Settings

end Prosopography
