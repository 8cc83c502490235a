import Prosopography.Proofs.Cluster.Order

/-!
# Which mentions exact clustering puts together

Mentions under one key belong together unless places tell them apart, and whether they do is
settled by all mentions under the key: a mention without a place goes with the others if these
are recorded at one place, and stays with its like if they are recorded at several.
-/

namespace Prosopography

/-- The recorded place in the form in which places are compared. -/
def Mention.comparedPlace? (m : Mention) : Option String := m.place?.map Text.lowercased

namespace Cluster

/-- Some mention under a key is recorded at a place. -/
def RecordedAt (mentions : MentionTable) (k x : String) : Prop :=
  ∃ m ∈ mentions.toList, Name.key m.name = k ∧ m.comparedPlace? = some x

/-- Two mentions under one key that no places tell apart: both are recorded nowhere, or at one
place, or one of them is recorded and with it all others at one place. -/
structure Inseparable (mentions : MentionTable) (m n : Mention) : Prop where
  key : Name.key m.name = Name.key n.name
  place : (m.comparedPlace? = none ∧ n.comparedPlace? = none) ∨
    (∃ x, m.comparedPlace? = some x ∧ n.comparedPlace? = some x) ∨
    (m.comparedPlace?.isSome ≠ n.comparedPlace?.isSome ∧
      ∃! x, RecordedAt mentions (Name.key m.name) x)

/-- The clusters that exact clustering makes of a table. -/
structure ExactlyClusters (mentions : MentionTable) (cs : List Cluster) : Prop where
  /-- Every name with a key has one cluster. -/
  owner : ∀ m ∈ mentions.toList, Name.key m.name ≠ "" →
    ∃! i : Fin cs.length, m.name ∈ (cs.get i).members
  /-- Two of them share it exactly if no places tell them apart. -/
  together : ∀ m ∈ mentions.toList, ∀ n ∈ mentions.toList,
    Name.key m.name ≠ "" → Name.key n.name ≠ "" →
      ((∃ i : Fin cs.length, m.name ∈ (cs.get i).members ∧ n.name ∈ (cs.get i).members) ↔
        Inseparable mentions m n)
  /-- Members are recorded in their order. -/
  members : ∀ c ∈ cs, c.members.Sublist (mentions.toList.map (·.name))
  /-- First members are recorded in the order of clusters. -/
  ordered : ∃ firsts : List Mention, firsts.Sublist mentions.toList ∧
    List.Forall₂ (fun c m => c.members.head? = some m.name) cs firsts
  key : ∀ c ∈ cs, ∀ v ∈ c.members, Name.key v = c.key
  places : ∀ c ∈ cs, ∀ x, x ∈ c.places.toList ↔
    ∃ m ∈ mentions.toList, m.name ∈ c.members ∧ m.comparedPlace? = some x

/-- A key is split exactly if two of its entries have different places. -/
theorem isSplit_iff {entries : List Entry} {k : String} :
    isSplit entries k = true ↔ ∃ e ∈ entries, ∃ d ∈ entries, e.key = k ∧ d.key = k ∧
      ∃ x y, e.place? = some x ∧ d.place? = some y ∧ x ≠ y := by
  constructor
  · intro h
    have hmem : ∀ x ∈ (entries.filter (·.key == k)).filterMap (·.place?),
        ∃ e ∈ entries, e.key = k ∧ e.place? = some x := by
      intro x hx
      obtain ⟨e, he, hex⟩ := List.mem_filterMap.mp hx
      obtain ⟨he, hek⟩ := List.mem_filter.mp he
      exact ⟨e, he, by simpa using hek, hex⟩
    unfold isSplit at h
    split at h
    · simp at h
    · rename_i x ys hplaces
      obtain ⟨y, hy, hyx⟩ := List.any_eq_true.mp h
      rw [hplaces] at hmem
      obtain ⟨e, he, hek, hex⟩ := hmem x List.mem_cons_self
      obtain ⟨d, hd, hdk, hdy⟩ := hmem y (List.mem_cons_of_mem x hy)
      exact ⟨e, he, d, hd, hek, hdk, x, y, hex, hdy, Ne.symm (by simpa using hyx)⟩
  · rintro ⟨e, he, d, hd, hek, hdk, x, y, hex, hdy, hne⟩
    by_contra h
    exact hne (eq_of_isSplit_eq_false (by simpa using h) he hd hek hdk hex hdy)

section Initial

variable {mentions : MentionTable}

/-- The mentions of a table that exact clustering gathers. -/
def keyedEntries (mentions : MentionTable) : List Entry :=
  (mentions.toList.map Entry.ofMention).filter (!·.key.isEmpty)

theorem clusters_initial : (initial mentions).clusters = ofEntries (keyedEntries mentions) := rfl

theorem mem_keyedEntries {m : Mention} (hm : m ∈ mentions.toList) (hkey : Name.key m.name ≠ "") :
    Entry.ofMention m ∈ keyedEntries mentions :=
  List.mem_filter.mpr ⟨List.mem_map_of_mem hm, by simpa [Entry.ofMention] using hkey⟩

theorem exists_of_mem_keyedEntries {e : Entry} (h : e ∈ keyedEntries mentions) :
    ∃ m ∈ mentions.toList, Name.key m.name ≠ "" ∧ Entry.ofMention m = e := by
  obtain ⟨h, hkey⟩ := List.mem_filter.mp h
  obtain ⟨m, hm, rfl⟩ := List.mem_map.mp h
  exact ⟨m, hm, by simpa [Entry.ofMention] using hkey, rfl⟩

/-- A key is split if mentions under it are recorded at two places. -/
theorem isSplit_keyedEntries_iff {k : String} (hk : k ≠ "") :
    isSplit (keyedEntries mentions) k = true ↔
      ∃ x y, RecordedAt mentions k x ∧ RecordedAt mentions k y ∧ x ≠ y := by
  rw [isSplit_iff]
  constructor
  · rintro ⟨e, he, d, hd, hek, hdk, x, y, hex, hdy, hne⟩
    obtain ⟨m, hm, -, rfl⟩ := exists_of_mem_keyedEntries he
    obtain ⟨n, hn, -, rfl⟩ := exists_of_mem_keyedEntries hd
    exact ⟨x, y, ⟨m, hm, hek, hex⟩, ⟨n, hn, hdk, hdy⟩, hne⟩
  · rintro ⟨x, y, ⟨m, hm, hmk, hmx⟩, ⟨n, hn, hnk, hny⟩, hne⟩
    exact ⟨_, mem_keyedEntries hm (hmk.symm ▸ hk), _, mem_keyedEntries hn (hnk.symm ▸ hk),
      hmk, hnk, x, y, hmx, hny, hne⟩

/-- The entries of a key that is not split have one place at most. -/
theorem eq_of_not_isSplit {k : String} (hk : k ≠ "")
    (h : ¬ isSplit (keyedEntries mentions) k = true) {x y : String}
    (hx : RecordedAt mentions k x) (hy : RecordedAt mentions k y) : x = y := by
  by_contra hne
  exact h ((isSplit_keyedEntries_iff hk).mpr ⟨x, y, hx, hy, hne⟩)

/-- A mention is at home under its key, and under its place too where the key is split. -/
theorem home_ofMention (m : Mention) :
    home (keyedEntries mentions) (Entry.ofMention m) =
      (Name.key m.name,
        if isSplit (keyedEntries mentions) (Name.key m.name) then m.comparedPlace? else none) :=
  rfl

/-- Under a split key a mention without a place has no one place to go to, so places are compared
as they are. -/
theorem inseparable_iff_of_isSplit {m n : Mention} (hkey : Name.key m.name ≠ "")
    (hsplit : isSplit (keyedEntries mentions) (Name.key m.name) = true) :
    Inseparable mentions m n ↔
      Name.key m.name = Name.key n.name ∧ m.comparedPlace? = n.comparedPlace? := by
  obtain ⟨x, y, hx, hy, hne⟩ := (isSplit_keyedEntries_iff hkey).mp hsplit
  constructor
  · rintro ⟨hsame, ⟨hm, hn⟩ | ⟨z, hm, hn⟩ | ⟨-, hone⟩⟩
    · exact ⟨hsame, hm.trans hn.symm⟩
    · exact ⟨hsame, hm.trans hn.symm⟩
    · exact absurd (hone.unique hx hy) hne
  · rintro ⟨hsame, hplace⟩
    refine ⟨hsame, ?_⟩
    cases hn : n.comparedPlace? with
    | none => exact .inl ⟨hplace.trans hn, rfl⟩
    | some z => exact .inr (.inl ⟨z, hplace.trans hn, rfl⟩)

/-- Under a key that is not split all places are one, and no place tells mentions apart. -/
theorem inseparable_iff_of_not_isSplit {m n : Mention} (hm : m ∈ mentions.toList)
    (hn : n ∈ mentions.toList) (hkey : Name.key m.name ≠ "")
    (hwhole : ¬ isSplit (keyedEntries mentions) (Name.key m.name) = true) :
    Inseparable mentions m n ↔ Name.key m.name = Name.key n.name := by
  refine ⟨Inseparable.key, fun hsame => ⟨hsame, ?_⟩⟩
  have hone {z : String} (hz : RecordedAt mentions (Name.key m.name) z) :
      ∃! z, RecordedAt mentions (Name.key m.name) z :=
    ⟨z, hz, fun w hw => eq_of_not_isSplit hkey hwhole hw hz⟩
  have hrecorded {z : String} (hz : n.comparedPlace? = some z) :
      RecordedAt mentions (Name.key m.name) z := ⟨n, hn, hsame.symm, hz⟩
  cases hmp : m.comparedPlace? with
  | none =>
      cases hnp : n.comparedPlace? with
      | none => exact .inl ⟨rfl, rfl⟩
      | some z => exact .inr (.inr ⟨by simp, hone (hrecorded hnp)⟩)
  | some z =>
      have hz : RecordedAt mentions (Name.key m.name) z := ⟨m, hm, rfl, hmp⟩
      cases hnp : n.comparedPlace? with
      | none => exact .inr (.inr ⟨by simp, hone hz⟩)
      | some w =>
          obtain rfl := eq_of_not_isSplit hkey hwhole hz (hrecorded hnp)
          exact .inr (.inl ⟨z, rfl, rfl⟩)

/-- Mentions have one home if places do not tell them apart. -/
theorem home_eq_iff_inseparable {m n : Mention} (hm : m ∈ mentions.toList)
    (hn : n ∈ mentions.toList) (hkey : Name.key m.name ≠ "") :
    home (keyedEntries mentions) (Entry.ofMention m) =
        home (keyedEntries mentions) (Entry.ofMention n) ↔ Inseparable mentions m n := by
  rw [home_ofMention, home_ofMention, Prod.mk.injEq]
  by_cases hsplit : isSplit (keyedEntries mentions) (Name.key m.name) = true
  · rw [inseparable_iff_of_isSplit hkey hsplit]
    refine and_congr_right fun hsame => ?_
    rw [← hsame, if_pos hsplit, if_pos hsplit]
  · rw [inseparable_iff_of_not_isSplit hm hn hkey hsplit, and_iff_left_iff_imp]
    intro hsame
    rw [← hsame, if_neg hsplit, if_neg hsplit]

/-- The names of the mentions of one home. -/
def namesAt (mentions : MentionTable) (place : String × Option String) : List String :=
  ((keyedEntries mentions).filter (home (keyedEntries mentions) · == place)).map (·.name)

/-- A name stands at its home and nowhere else. -/
theorem mem_namesAt_iff {m : Mention} (hm : m ∈ mentions.toList) (hkey : Name.key m.name ≠ "")
    {place : String × Option String} :
    m.name ∈ namesAt mentions place ↔
      home (keyedEntries mentions) (Entry.ofMention m) = place := by
  constructor
  · intro h
    obtain ⟨e, he, hname⟩ := List.mem_map.mp h
    obtain ⟨he, hhome⟩ := List.mem_filter.mp he
    obtain ⟨n, hn, -, rfl⟩ := exists_of_mem_keyedEntries he
    -- Names are keys of the table, so no other mention has this name.
    obtain rfl : n = m := List.inj_on_of_nodup_map mentions.nodup_keys hn hm hname
    exact beq_iff_eq.mp hhome
  · intro h
    exact List.mem_map.mpr
      ⟨_, List.mem_filter.mpr ⟨mem_keyedEntries hm hkey, beq_iff_eq.mpr h⟩, rfl⟩

/-- The names of a cluster come in the order of the table. -/
theorem namesAt_sublist (mentions : MentionTable) (place : String × Option String) :
    (namesAt mentions place).Sublist (mentions.toList.map (·.name)) := by
  have hnames : (mentions.toList.map Entry.ofMention).map (·.name) =
      mentions.toList.map (·.name) := by
    rw [List.map_map]
    rfl
  have hkeyed : (keyedEntries mentions).Sublist (mentions.toList.map Entry.ofMention) :=
    List.filter_sublist
  rw [← hnames]
  exact (List.filter_sublist.trans hkeyed).map _

/-- The members of a cluster are the names at its home. -/
theorem members_ofGroup {g : (String × Option String) × List Entry}
    (h : g ∈ groupBy (home (keyedEntries mentions)) (keyedEntries mentions)) :
    (ofMembers g.1.1 (g.2.map fun e => (e.name, e.location))).members =
      namesAt mentions g.1 := by
  rw [members_ofMembers, List.map_map, group_eq_filter h]
  rfl

/-- The members of an initial cluster are the mentions of one home. -/
theorem exists_home_of_mem_initial {c : Cluster} (h : c ∈ (initial mentions).clusters) :
    ∃ place, c.members = namesAt mentions place := by
  rw [clusters_initial] at h
  obtain ⟨g, hg, rfl⟩ := List.mem_map.mp h
  exact ⟨g.1, members_ofGroup hg⟩

/-- The names at the home of a mention are a cluster. -/
theorem exists_mem_initial_of_home {m : Mention} (hm : m ∈ mentions.toList)
    (hkey : Name.key m.name ≠ "") :
    ∃ c ∈ (initial mentions).clusters,
      c.members = namesAt mentions (home (keyedEntries mentions) (Entry.ofMention m)) := by
  obtain ⟨g, hg, hhome⟩ := List.mem_map.mp
    (mem_labels.mpr ⟨_, mem_keyedEntries hm hkey, rfl⟩ :
      home (keyedEntries mentions) (Entry.ofMention m) ∈
        labels (home (keyedEntries mentions)) (keyedEntries mentions))
  rw [clusters_initial, ← hhome]
  exact ⟨_, List.mem_map_of_mem hg, members_ofGroup hg⟩

/-- Two names are in one cluster exactly if nothing parts their mentions. -/
theorem together_iff {m n : Mention} (hm : m ∈ mentions.toList) (hn : n ∈ mentions.toList)
    (hmk : Name.key m.name ≠ "") (hnk : Name.key n.name ≠ "") :
    (∃ i : Fin (initial mentions).clusters.length,
        m.name ∈ ((initial mentions).clusters.get i).members ∧
          n.name ∈ ((initial mentions).clusters.get i).members) ↔ Inseparable mentions m n := by
  rw [← home_eq_iff_inseparable hm hn hmk]
  constructor
  · rintro ⟨i, hmi, hni⟩
    obtain ⟨place, hmembers⟩ := exists_home_of_mem_initial (List.get_mem _ i)
    rw [hmembers] at hmi hni
    exact ((mem_namesAt_iff hm hmk).mp hmi).trans ((mem_namesAt_iff hn hnk).mp hni).symm
  · intro hhome
    obtain ⟨c, hc, hmembers⟩ := exists_mem_initial_of_home hm hmk
    obtain ⟨i, rfl⟩ := List.get_of_mem hc
    refine ⟨i, ?_, ?_⟩
    · rw [hmembers, mem_namesAt_iff hm hmk]
    · rw [hmembers, mem_namesAt_iff hn hnk, hhome]

/-- Every place of a cluster is recorded with one of its members. -/
theorem exists_mention_of_mem_places {c : Cluster} (h : c ∈ (initial mentions).clusters)
    {x : String} (hx : x ∈ c.places.toList) :
    ∃ m ∈ mentions.toList, m.name ∈ c.members ∧ m.comparedPlace? = some x := by
  obtain ⟨g, -, hg, hc⟩ := exists_of_mem_initial h
  rw [hc, mem_places_ofMembers] at hx
  obtain ⟨p, hp, hpx⟩ := hx
  obtain ⟨e, he, rfl⟩ := List.mem_map.mp hp
  obtain ⟨-, m, hm, rfl⟩ := hg e he
  refine ⟨m, hm, ?_, hpx⟩
  rw [hc, members_ofMembers, List.map_map]
  exact List.mem_map_of_mem he

/-- Exact clustering puts together what belongs together, and keeps the order of the table. -/
theorem exactlyClusters_initial (mentions : MentionTable) :
    ExactlyClusters mentions (initial mentions).clusters where
  owner m hm hkey := by
    have hperm := allMembers_initial_perm mentions
    apply existsUnique_get_of_nodup_flatMap (hperm.nodup_iff.mpr (nodup_keyedNames mentions))
    exact hperm.mem_iff.mpr (mem_keyedNames.mpr ⟨⟨m, hm, rfl⟩, hkey⟩)
  together m hm n hn hmk hnk := together_iff hm hn hmk hnk
  members c hc := by
    obtain ⟨place, hmembers⟩ := exists_home_of_mem_initial hc
    exact hmembers ▸ namesAt_sublist mentions place
  ordered := by
    obtain ⟨firsts, hfirsts, hsub⟩ := List.sublistForall₂_iff.mp (startsWith_initial mentions)
    exact ⟨firsts, hsub, hfirsts.imp fun _ _ h => h.member⟩
  key c hc v hv := key_of_mem_initial hc hv
  places c hc x :=
    ⟨exists_mention_of_mem_places hc,
      fun ⟨m, hm, hmem, hx⟩ => placed_of_mem_initial hc m hm hmem x hx⟩

-- A third mention decides whether the first two belong together.
example :
    let first := Mention.of "Jean Petit" .witness
    let second := (Mention.of "jean petit" .witness).withLocation "Toul"
    let third := (Mention.of "Jean PETIT" .witness).withLocation "Metz"
    (initial (.ofPuts [first, second])).clusters.map (·.members) =
        [["Jean Petit", "jean petit"]] ∧
      (initial (.ofPuts [first, second, third])).clusters.map (·.members) =
        [["Jean Petit"], ["jean petit"], ["Jean PETIT"]] := by
  decide +kernel

end Initial

end Cluster

end Prosopography
