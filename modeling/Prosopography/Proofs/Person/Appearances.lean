import Prosopography.Person.OfCluster
import Prosopography.Proofs.Collection.FirstSeen
import Prosopography.Proofs.Collection.IndexedTable
import Prosopography.Proofs.Collection.SortedMap

/-!
# The appearances of a person

A person appears once in every trial of every mention, under the name and in the role of that
mention. The map of roles keeps one role for each trial, that of the last appearance in it.
-/

namespace Prosopography

/-- What a mention tells of a person's appearances: there is one in each of its trials, in the
order in which it first names them. -/
structure Mention.Tells (m : Mention) (trials : TrialTable) (l : List Appearance) : Prop where
  trial_iff : ∀ t, (∃ a ∈ l, a.trial = t) ↔ t ∈ m.trials
  ordered : l.Pairwise fun a b => m.trials.idxOf a.trial < m.trials.idxOf b.trial
  name : ∀ a ∈ l, a.name = m.name
  role : ∀ a ∈ l, (a.trial, a.role) ∈ m.roles.toList ∨
    a.trial ∉ m.roles.keys ∧ a.role = .unknown
  year : ∀ a ∈ l, (∃ row ∈ trials.toList, row.id = a.trial ∧ row.year = a.year) ∨
    (∀ row ∈ trials.toList, row.id ≠ a.trial) ∧ a.year = none

/-- What the table of mentions tells of the appearances under a name. -/
def MentionTable.Tells (mentions : MentionTable) (trials : TrialTable) (name : String)
    (l : List Appearance) : Prop :=
  (∃ m ∈ mentions.toList, m.name = name ∧ m.Tells trials l) ∨
    (∀ m ∈ mentions.toList, m.name ≠ name) ∧ l = []

namespace Person

/-- The last appearance of a person in a trial. -/
def LastIn (p : Person) (trial : String) (a : Appearance) : Prop :=
  ∃ before after, p.appearances = before ++ a :: after ∧ a.trial = trial ∧
    ∀ b ∈ after, b.trial ≠ trial

/-- A person appears as the mentions of its names tell, one name after the other, and has the
role of the last appearance in each trial. -/
structure Collects (p : Person) (mentions : MentionTable) (trials : TrialTable) (c : Cluster) :
    Prop where
  appearances : ∃ parts, p.appearances = parts.flatten ∧
    List.Forall₂ (mentions.Tells trials) c.members parts
  trials : ∀ t, t ∈ p.roles.keys ↔ ∃ a ∈ p.appearances, a.trial = t
  roles : ∀ t r, (t, r) ∈ p.roles.toList ↔ ∃ a, p.LastIn t a ∧ a.role = r

theorem firstSeen_eq_eraseDups (l : List String) : firstSeen l = l.eraseDups := by
  fun_induction firstSeen l with
  | case1 => rfl
  | case2 a rest ih =>
      have hrest : firstSeen (rest.filter (· != a)) = (rest.filter (· != a)).eraseDups := by
        simpa using ih
      rw [hrest, List.eraseDups_cons]
      rfl

end Person

/-- The year of a trial is that of its row, and no year without a row. -/
theorem TrialTable.yearOf_cases (trials : TrialTable) (id : String) :
    (∃ row ∈ trials.toList, row.id = id ∧ row.year = trials.yearOf id) ∨
      (∀ row ∈ trials.toList, row.id ≠ id) ∧ trials.yearOf id = none := by
  rw [yearOf]
  cases hget : trials.get? id with
  | some row =>
      obtain ⟨hmem, hid⟩ := (trials.get?_eq_some_iff id row).mp hget
      exact .inl ⟨row, hmem, hid, rfl⟩
  | none => exact .inr ⟨IndexedTable.get?_eq_none_iff.mp hget, rfl⟩

namespace Mention

/-- The role in a trial is the one recorded for it, and unknown without one. -/
theorem roleIn_cases (m : Mention) (t : String) :
    (t, m.roleIn t) ∈ m.roles.toList ∨ t ∉ m.roles.keys ∧ m.roleIn t = .unknown := by
  rw [roleIn]
  cases hfind : m.roles.find? t with
  | some r => exact .inl (SortedMap.find?_eq_some_iff.mp hfind)
  | none => exact .inr ⟨SortedMap.find?_eq_none_iff.mp hfind, rfl⟩

/-- A mention tells one appearance for each of its trials. -/
theorem tells_appearances (m : Mention) (trials : TrialTable) :
    m.Tells trials (m.appearances trials) := by
  have hmem : ∀ {a}, a ∈ m.appearances trials →
      a.name = m.name ∧ a.role = m.roleIn a.trial ∧ a.year = trials.yearOf a.trial := by
    intro a ha
    obtain ⟨t, -, rfl⟩ := List.mem_map.mp ha
    exact ⟨rfl, rfl, rfl⟩
  refine ⟨fun t => ?_, ?_, fun a ha => (hmem ha).1, fun a ha => ?_, fun a ha => ?_⟩
  · simp [appearances, Person.firstSeen_eq_eraseDups]
  · rw [appearances, List.pairwise_map, Person.firstSeen_eq_eraseDups]
    exact pairwise_idxOf_eraseDups m.trials
  · rw [(hmem ha).2.1]
    exact m.roleIn_cases a.trial
  · rw [(hmem ha).2.2]
    exact trials.yearOf_cases a.trial

end Mention

theorem MentionTable.exists_parts (mentions : MentionTable) (trials : TrialTable)
    (names : List String) : ∃ parts,
      (names.filterMap mentions.get?).flatMap (·.appearances trials) = parts.flatten ∧
        List.Forall₂ (mentions.Tells trials) names parts := by
  induction names with
  | nil => exact ⟨[], rfl, .nil⟩
  | cons name names ih =>
      obtain ⟨parts, hparts, htells⟩ := ih
      cases hget : mentions.get? name with
      | some m =>
          obtain ⟨hmem, hname⟩ := (mentions.get?_eq_some_iff name m).mp hget
          refine ⟨m.appearances trials :: parts, ?_, ?_⟩
          · rw [List.filterMap_cons_some hget, List.flatMap_cons, hparts, List.flatten_cons]
          · exact .cons (.inl ⟨m, hmem, hname, m.tells_appearances trials⟩) htells
      | none =>
          refine ⟨[] :: parts, ?_, ?_⟩
          · rw [List.filterMap_cons_none hget, hparts, List.flatten_cons, List.nil_append]
          · exact .cons (.inr ⟨IndexedTable.get?_eq_none_iff.mp hget, rfl⟩) htells

namespace Person

section LastIn

variable {p : Person} {t : String} {a : Appearance}

/-- The last appearance in a trial is the first one from behind. -/
theorem lastIn_iff : p.LastIn t a ↔ p.appearances.reverse.find? (·.trial == t) = some a := by
  rw [List.find?_eq_some_iff_append]
  constructor
  · rintro ⟨before, after, hsplit, htrial, hafter⟩
    refine ⟨by simpa using htrial, after.reverse, before.reverse, by simp [hsplit], ?_⟩
    intro b hb
    simpa using hafter b (List.mem_reverse.mp hb)
  · rintro ⟨htrial, after, before, hsplit, hafter⟩
    refine ⟨before.reverse, after.reverse, ?_, by simpa using htrial, ?_⟩
    · rw [← List.reverse_reverse p.appearances, hsplit]
      simp
    · intro b hb
      simpa using hafter b (List.mem_reverse.mp hb)

/-- A person has a last appearance in every trial of theirs and in no other. -/
theorem exists_lastIn_iff : (∃ a, p.LastIn t a) ↔ ∃ a ∈ p.appearances, a.trial = t := by
  simp only [lastIn_iff, ← Option.isSome_iff_exists, List.find?_isSome, List.mem_reverse,
    beq_iff_eq]

/-- The role in a trial is that of the last appearance there. -/
theorem mem_rolesOf_iff {r : Role} :
    (t, r) ∈ (rolesOf p.appearances).toList ↔ ∃ a, p.LastIn t a ∧ a.role = r := by
  rw [← SortedMap.find?_eq_some_iff, rolesOf, SortedMap.find?_foldl_insert, SortedMap.find?_empty,
    Option.or_none, Option.map_eq_some_iff]
  simp only [lastIn_iff]

end LastIn

variable {mentions : MentionTable} {trials : TrialTable} {id : PersonId} {c : Cluster}

theorem mem_mentionsOf {m : Mention} :
    m ∈ mentionsOf mentions c ↔ m ∈ mentions.toList ∧ m.name ∈ c.members := by
  rw [mentionsOf, List.mem_filterMap]
  constructor
  · rintro ⟨v, hv, hget⟩
    obtain ⟨hm, rfl⟩ := (mentions.get?_eq_some_iff v m).mp hget
    exact ⟨hm, hv⟩
  · rintro ⟨hm, hv⟩
    exact ⟨m.name, hv, (mentions.get?_eq_some_iff m.name m).mpr ⟨hm, rfl⟩⟩

/-- An appearance puts together what the mention of a name and the table of trials say of one
trial. -/
theorem mem_appearances_ofCluster_iff {a : Appearance} :
    a ∈ (ofCluster mentions trials id c).appearances ↔
      ∃ m ∈ mentions.toList, m.name ∈ c.members ∧ ∃ t ∈ m.trials,
        a = ⟨t, m.roleIn t, trials.yearOf t, m.name⟩ := by
  have happearances : (ofCluster mentions trials id c).appearances =
      (mentionsOf mentions c).flatMap (·.appearances trials) := rfl
  simp only [happearances, List.mem_flatMap, mem_mentionsOf, Mention.appearances, List.mem_map,
    firstSeen_eq_eraseDups, List.mem_eraseDups, and_assoc, eq_comm]

theorem mem_roles_ofCluster_iff {t : String} {r : Role} :
    (t, r) ∈ (ofCluster mentions trials id c).roles.toList ↔
      ∃ a, (ofCluster mentions trials id c).LastIn t a ∧ a.role = r :=
  mem_rolesOf_iff (p := ofCluster mentions trials id c)

/-- A person collects the appearances of all members, in order. -/
theorem collects_ofCluster : (ofCluster mentions trials id c).Collects mentions trials c where
  appearances := mentions.exists_parts trials c.members
  trials t := by
    rw [← exists_lastIn_iff, SortedMap.mem_keys_iff]
    simp only [mem_roles_ofCluster_iff]
    constructor
    · rintro ⟨-, a, ha, -⟩
      exact ⟨a, ha⟩
    · rintro ⟨a, ha⟩
      exact ⟨a.role, a, ha, rfl⟩
  roles _ _ := mem_roles_ofCluster_iff

end Person

end Prosopography
