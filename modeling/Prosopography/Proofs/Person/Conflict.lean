import Prosopography.Mention.Basic
import Prosopography.Person.Conflict
import Prosopography.Proofs.Collection.FirstSeen

/-!
# Standings and genders reconciled

The mentions of a person may disagree. Of their standings the highest one is taken, and of their
genders the one with most votes; only where genders are tied does it matter in which order the
mentions stand.
-/

namespace Prosopography

namespace Standing

/-- The highest of some standings; without any, a person is just a person. -/
def IsHighest (standings : List Standing) (s : Standing) : Prop :=
  standings = [] ∧ s = .person ∨ s ∈ standings ∧ ∀ t ∈ standings, t.rank ≤ s.rank

/-- The scan answers its start or one of the standings, and none of these outranks the answer. -/
theorem foldl_highest (standings : List Standing) (start : Standing) :
    let s := standings.foldl (fun best t => if best.rank ≤ t.rank then t else best) start
    (s = start ∨ s ∈ standings) ∧ start.rank ≤ s.rank ∧ ∀ t ∈ standings, t.rank ≤ s.rank := by
  induction standings generalizing start with
  | nil => simp
  | cons t rest ih =>
      dsimp only [List.foldl_cons]
      split
      · rename_i hle
        obtain ⟨hmem, hstart, hrest⟩ := ih t
        exact ⟨.inr (List.mem_cons.mpr hmem), Nat.le_trans hle hstart,
          List.forall_mem_cons.mpr ⟨hstart, hrest⟩⟩
      · rename_i hlt
        obtain ⟨hmem, hstart, hrest⟩ := ih start
        exact ⟨hmem.imp_right (List.mem_cons_of_mem t), hstart,
          List.forall_mem_cons.mpr ⟨Nat.le_trans (Nat.le_of_not_le hlt) hstart, hrest⟩⟩

/-- The standing chosen is the highest of all. -/
theorem isHighest_highest (standings : List Standing) :
    IsHighest standings (highest standings) := by
  obtain ⟨hmem, -, hrest⟩ := foldl_highest standings .person
  change highest standings = .person ∨ highest standings ∈ standings at hmem
  cases standings with
  | nil => exact .inl ⟨rfl, rfl⟩
  | cons t rest =>
      refine .inr ⟨hmem.elim (fun hperson => ?_) id, hrest⟩
      -- Nobody outranks a person, so everyone is one.
      have ht : t.rank ≤ (highest (t :: rest)).rank := hrest t List.mem_cons_self
      rw [hperson] at ht ⊢
      have hperson : t = .person := rank_injective (Nat.le_zero.mp ht)
      exact hperson ▸ List.mem_cons_self

theorem IsHighest.unique {standings : List Standing} {s t : Standing} (hs : IsHighest standings s)
    (ht : IsHighest standings t) : s = t := by
  rcases hs with ⟨hnil, rfl⟩ | ⟨hmem, hs⟩
  · rcases ht with ⟨-, rfl⟩ | ⟨hmem, -⟩
    · rfl
    · simp [hnil] at hmem
  · rcases ht with ⟨hnil, -⟩ | ⟨hmem', ht⟩
    · simp [hnil] at hmem
    · exact rank_injective (Nat.le_antisymm (ht s hmem) (hs t hmem'))

/-- The highest standing does not depend on the order. -/
theorem isHighest_of_perm {l l' : List Standing} (h : l.Perm l') {s : Standing} :
    IsHighest l s ↔ IsHighest l' s := by
  simp only [IsHighest, h.mem_iff, ← List.length_eq_zero_iff, h.length_eq]

/-- The highest standing does not depend on the order. -/
theorem highest_of_perm {l l' : List Standing} (h : l.Perm l') : highest l = highest l' :=
  (isHighest_highest l).unique ((isHighest_of_perm h).mpr (isHighest_highest l'))

end Standing

namespace Gender

/-- A known gender with votes, and none with more. -/
structure Leads (votes : List Gender) (g : Gender) : Prop where
  known : g.isKnown = true
  voted : g ∈ votes
  most : ∀ h, h.isKnown = true → votes.count h ≤ votes.count g

/-- The leading gender, the first one to get a vote if several lead. -/
structure Elected (votes : List Gender) (g : Gender) : Prop where
  leads : Leads votes g
  first : ∀ h, Leads votes h → votes.idxOf g ≤ votes.idxOf h

/-- Several genders lead. -/
def Tied (votes : List Gender) : Prop := ∃ g h, g ≠ h ∧ Leads votes g ∧ Leads votes h

section Tally

variable {keys : List Gender} {f : Gender → Nat} {g : Gender}

theorem castVote_of_mem (hkeys : keys.Nodup) (hg : g ∈ keys) :
    castVote (keys.map fun h => (h, f h)) g =
      keys.map fun h => (h, if h = g then f h + 1 else f h) := by
  induction keys with
  | nil => simp at hg
  | cons k keys ih =>
      obtain ⟨hk, hkeys⟩ := List.nodup_cons.mp hkeys
      rw [List.map_cons, castVote, List.map_cons]
      by_cases hkg : k = g
      · subst hkg
        have hrest : keys.map (fun h => (h, f h)) =
            keys.map fun h => (h, if h = k then f h + 1 else f h) :=
          List.map_congr_left fun h hh => by simp [ne_of_mem_of_not_mem hh hk]
        simp [hrest]
      · rw [if_neg hkg, if_neg hkg, ih hkeys (List.mem_of_ne_of_mem (Ne.symm hkg) hg)]

theorem castVote_of_notMem (hg : g ∉ keys) :
    castVote (keys.map fun h => (h, f h)) g = (keys.map fun h => (h, f h)) ++ [(g, 1)] := by
  induction keys with
  | nil => rfl
  | cons k keys ih =>
      obtain ⟨hkg, hkeys⟩ := not_or.mp (mt List.mem_cons.mpr hg)
      rw [List.map_cons, castVote, if_neg (Ne.symm hkg), ih hkeys, List.cons_append]

theorem tally_concat (votes : List Gender) (g : Gender) :
    tally (votes ++ [g]) = if g.isKnown then castVote (tally votes) g else tally votes := by
  rw [tally, List.filter_append, List.foldl_append]
  by_cases hg : g.isKnown = true
  · simp [hg, tally]
  · simp [hg, tally]

theorem count_concat (votes : List Gender) (g h : Gender) :
    (votes ++ [g]).count h = if h = g then votes.count h + 1 else votes.count h := by
  rw [List.count_append, List.count_singleton]
  by_cases hg : h = g
  · simp [hg]
  · simp [hg, Ne.symm hg]

/-- A vote makes no difference to the others. -/
theorem map_count_concat (votes : List Gender) (hg : g ∉ keys) :
    (keys.map fun h => (h, (votes ++ [g]).count h)) = keys.map fun h => (h, votes.count h) := by
  refine List.map_congr_left fun h hh => ?_
  rw [count_concat, if_neg (ne_of_mem_of_not_mem hh hg)]

/-- The tally has the known genders in the order of their first votes, each with all its votes. -/
theorem tally_eq (votes : List Gender) :
    tally votes = (votes.eraseDups.filter (·.isKnown)).map fun g => (g, votes.count g) := by
  induction votes using List.reverseRecOn with
  | nil => rfl
  | append_singleton votes g ih =>
      have hmem : g ∈ votes.eraseDups.filter (·.isKnown) ↔ g ∈ votes ∧ g.isKnown = true := by
        rw [List.mem_filter, List.mem_eraseDups]
      have hseen := eraseDups_concat votes g
      rw [tally_concat, ih]
      by_cases hg : g.isKnown = true
      · rw [if_pos hg]
        by_cases hvoted : g ∈ votes
        · rw [hseen, if_pos (by simpa using hvoted),
            castVote_of_mem ((nodup_eraseDups votes).filter _) (hmem.mpr ⟨hvoted, hg⟩)]
          simp only [count_concat]
        · have hnew := mt hmem.mp fun h => hvoted h.1
          rw [hseen, if_neg (by simpa using hvoted), castVote_of_notMem hnew, List.filter_append,
            List.map_append, map_count_concat votes hnew]
          simp [hg, List.count_eq_zero_of_not_mem hvoted]
      · have hkeys : (votes ++ [g]).eraseDups.filter (·.isKnown) =
            votes.eraseDups.filter (·.isKnown) := by
          rw [hseen]
          split
          · rfl
          · simp [hg]
        rw [if_neg hg, hkeys, map_count_concat votes (mt hmem.mp fun h => hg h.2)]

variable {votes : List Gender} {n : Nat}

/-- A tally has the number of votes of every known gender. -/
theorem mem_tally : (g, n) ∈ tally votes ↔ g ∈ votes ∧ g.isKnown = true ∧ votes.count g = n := by
  rw [tally_eq, List.mem_map]
  constructor
  · rintro ⟨h, hh, heq⟩
    obtain ⟨rfl, rfl⟩ := Prod.mk.inj heq
    obtain ⟨hvoted, hknown⟩ := List.mem_filter.mp hh
    exact ⟨List.mem_eraseDups.mp hvoted, hknown, rfl⟩
  · rintro ⟨hvoted, hknown, rfl⟩
    exact ⟨g, List.mem_filter.mpr ⟨List.mem_eraseDups.mpr hvoted, hknown⟩, rfl⟩

/-- A tally is in the order of the first votes. -/
theorem pairwise_tally (votes : List Gender) :
    (tally votes).Pairwise fun e x => votes.idxOf e.1 < votes.idxOf x.1 := by
  rw [tally_eq, List.pairwise_map]
  exact (pairwise_idxOf_eraseDups votes).filter _

end Tally

/-- The scan answers the first of the largest entries, if any is larger than its start. -/
theorem foldl_largest (entries : List (Gender × Nat)) (start : Gender × Nat) :
    let e := entries.foldl (fun best e => if best.2 < e.2 then e else best) start
    e = start ∧ (∀ x ∈ entries, x.2 ≤ start.2) ∨
      start.2 < e.2 ∧ ∃ before after, entries = before ++ e :: after ∧
        (∀ x ∈ before, x.2 < e.2) ∧ ∀ x ∈ after, x.2 ≤ e.2 := by
  induction entries generalizing start with
  | nil => simp
  | cons x rest ih =>
      dsimp only [List.foldl_cons]
      split
      · rename_i hlt
        rcases ih x with ⟨heq, hrest⟩ | ⟨hx, before, after, hsplit, hbefore, hafter⟩
        · rw [heq]
          exact .inr ⟨hlt, [], rest, rfl, by simp, hrest⟩
        · refine .inr ⟨Nat.lt_trans hlt hx, x :: before, after, by rw [List.cons_append, ← hsplit],
            List.forall_mem_cons.mpr ⟨hx, hbefore⟩, hafter⟩
      · rename_i hle
        have hle := Nat.le_of_not_lt hle
        rcases ih start with ⟨heq, hrest⟩ | ⟨hstart, before, after, hsplit, hbefore, hafter⟩
        · exact .inl ⟨heq, List.forall_mem_cons.mpr ⟨hle, hrest⟩⟩
        · exact .inr ⟨hstart, x :: before, after, by rw [List.cons_append, ← hsplit],
            List.forall_mem_cons.mpr ⟨Nat.lt_of_le_of_lt hle hstart, hbefore⟩, hafter⟩

/-- The first of the largest entries of the tally is that of the elected gender. -/
theorem elected_of_tally {votes : List Gender} {before after : List (Gender × Nat)}
    {e : Gender × Nat} (hsplit : tally votes = before ++ e :: after)
    (hbefore : ∀ x ∈ before, x.2 < e.2) (hafter : ∀ x ∈ after, x.2 ≤ e.2) :
    Elected votes e.1 := by
  obtain ⟨g, n⟩ := e
  have hentry : (g, n) ∈ tally votes := hsplit ▸ List.mem_append_right _ List.mem_cons_self
  obtain ⟨hvoted, hknown, rfl⟩ := mem_tally.mp hentry
  -- Where the entry of another known gender with votes stands.
  have hplace : ∀ {h}, h ∈ votes → h.isKnown = true → (h, votes.count h) ∈ before ∨ h = g ∨
      (h, votes.count h) ∈ after := by
    intro h hh hhknown
    have hmem := mem_tally.mpr ⟨hh, hhknown, rfl⟩
    rw [hsplit, List.mem_append, List.mem_cons] at hmem
    exact hmem.imp_right (Or.imp_left (congrArg Prod.fst))
  refine ⟨⟨hknown, hvoted, fun h hhknown => ?_⟩, fun h hh => ?_⟩
  · by_cases hh : h ∈ votes
    · rcases hplace hh hhknown with hmem | rfl | hmem
      · exact Nat.le_of_lt (hbefore _ hmem)
      · exact Nat.le_refl _
      · exact hafter _ hmem
    · simp [List.count_eq_zero_of_not_mem hh]
  · rcases hplace hh.voted hh.known with hmem | rfl | hmem
    · exact absurd (hbefore _ hmem) (Nat.not_lt_of_le (hh.most g hknown))
    · exact Nat.le_refl _
    · have hpairwise := pairwise_tally votes
      rw [hsplit, List.pairwise_append, List.pairwise_cons] at hpairwise
      exact Nat.le_of_lt (hpairwise.2.1.1 _ hmem)

/-- Without a vote for a known gender there is no majority, otherwise it is elected. -/
theorem majority_cases (votes : List Gender) :
    majority votes = unknown ∧ (∀ g ∈ votes, g = unknown) ∨ Elected votes (majority votes) := by
  rcases foldl_largest (tally votes) (unknown, 0) with
    ⟨hstart, hzero⟩ | ⟨-, before, after, hsplit, hbefore, hafter⟩
  · refine .inl ⟨congrArg Prod.fst hstart, fun g hg => ?_⟩
    by_contra hunknown
    have hentry := mem_tally.mpr ⟨hg, by simpa [isKnown] using hunknown, rfl⟩
    exact Nat.not_lt_of_le (hzero _ hentry) (List.count_pos_iff.mpr hg)
  · exact .inr (elected_of_tally hsplit hbefore hafter)

section Order

variable {votes votes' : List Gender} {g : Gender}

theorem Elected.ne_unknown (h : Elected votes g) : g ≠ unknown := by
  rintro rfl
  exact absurd h.leads.known (by decide)

/-- The majority is unknown only if no vote is known. -/
theorem majority_eq_unknown_iff : majority votes = unknown ↔ ∀ g ∈ votes, g = unknown := by
  rcases majority_cases votes with ⟨hunknown, hnone⟩ | helected
  · exact iff_of_true hunknown hnone
  · exact iff_of_false helected.ne_unknown
      fun hnone => helected.ne_unknown (hnone _ helected.leads.voted)

/-- The majority is elected: most votes, and among equals the first vote. -/
theorem elected_majority (h : majority votes ≠ unknown) : Elected votes (majority votes) :=
  (majority_cases votes).resolve_left fun hnone => h hnone.1

/-- A lead does not depend on the order of the votes. -/
theorem Leads.perm (h : Leads votes g) (hperm : votes.Perm votes') : Leads votes' g where
  known := h.known
  voted := hperm.mem_iff.mp h.voted
  most k hk := by
    rw [← hperm.count_eq, ← hperm.count_eq]
    exact h.most k hk

/-- The order of votes decides nothing where one gender leads alone. -/
theorem majority_of_perm (hperm : votes.Perm votes') (halone : ¬ Tied votes) :
    majority votes = majority votes' := by
  by_cases hnone : majority votes = unknown
  · rw [hnone, eq_comm, majority_eq_unknown_iff]
    exact fun g hg => majority_eq_unknown_iff.mp hnone g (hperm.mem_iff.mpr hg)
  · have hnone' : majority votes' ≠ unknown := by
      intro h
      exact hnone (majority_eq_unknown_iff.mpr fun g hg =>
        majority_eq_unknown_iff.mp h g (hperm.mem_iff.mp hg))
    by_contra hne
    exact halone ⟨_, _, hne, (elected_majority hnone).leads,
      (elected_majority hnone').leads.perm hperm.symm⟩

example : majority [.unknown, .male, .female] = .male ∧
    majority [.female, .male, .unknown] = .female := by decide

end Order

end Gender

/-- Of several mentions the highest standing and the elected gender are taken. Their order makes no
difference to the standing, and to the gender only where genders are tied. -/
theorem Person.reconciled (ms : List Mention) :
    Standing.IsHighest (ms.map (·.standing)) (Standing.highest (ms.map (·.standing))) ∧
      (Gender.majority (ms.filterMap (·.gender)) = .unknown ↔
        ∀ m ∈ ms, ∀ g, m.gender = some g → g = .unknown) ∧
      (Gender.majority (ms.filterMap (·.gender)) ≠ .unknown →
        Gender.Elected (ms.filterMap (·.gender)) (Gender.majority (ms.filterMap (·.gender)))) ∧
      ∀ ms', ms.Perm ms' →
        Standing.highest (ms.map (·.standing)) = Standing.highest (ms'.map (·.standing)) ∧
          (¬ Gender.Tied (ms.filterMap (·.gender)) →
            Gender.majority (ms.filterMap (·.gender)) =
              Gender.majority (ms'.filterMap (·.gender))) := by
  refine ⟨Standing.isHighest_highest _, ?_, Gender.elected_majority, fun ms' hperm => ⟨?_, ?_⟩⟩
  · rw [Gender.majority_eq_unknown_iff, List.forall_mem_filterMap]
  · exact Standing.highest_of_perm (hperm.map _)
  · exact Gender.majority_of_perm (hperm.filterMap _)

end Prosopography
