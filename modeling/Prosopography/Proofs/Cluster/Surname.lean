import Prosopography.Cluster.Surname
import Prosopography.Proofs.Cluster.Members
import Mathlib.Data.List.TakeWhile

/-!
# What attaching references keeps

A reference is told by its key: an article, blanks and one word. No member is lost or
repeated. Only full names take over members, only references are taken over, and a
reference is taken over as a whole.
-/

namespace Prosopography

namespace Name

open Text

/-- A key that gives a surname only: an article, blanks and then one word up to the end. -/
def GivesSurname (key surname : List Char) : Prop :=
  ∃ article blanks, key = article ++ blanks ++ surname ∧
    (article = ['l', 'a'] ∨ article = ['l', 'e']) ∧
      (blanks ≠ [] ∧ ∀ c ∈ blanks, isBlank c = true) ∧
        surname ≠ [] ∧ ∀ c ∈ surname, isBlank c = false

/-- What is read off a key is a surname that the key gives. -/
theorem givesSurname_of_surnameReference? {key surname : List Char}
    (h : surnameReference? key = some surname) : GivesSurname key surname := by
  unfold surnameReference? at h
  split at h
  · rename_i v s
    dsimp only at h
    split at h
    · rename_i hform
      obtain ⟨hv, hshort, hname, hword⟩ := hform
      obtain rfl := Option.some.inj h
      have hsplit := List.takeWhile_append_dropWhile (p := isBlank) (l := s)
      have hblanks : s.takeWhile isBlank ≠ [] := by
        intro hnil
        rw [hnil, List.nil_append] at hsplit
        exact absurd (congrArg List.length hsplit) (Nat.ne_of_lt hshort)
      refine ⟨['l', v], s.takeWhile isBlank, by simp [hsplit], ?_,
        ⟨hblanks, fun c => List.mem_takeWhile_imp⟩, hname, by simpa using hword⟩
      rcases hv with rfl | rfl
      · exact .inl rfl
      · exact .inr rfl
    · simp at h
  · simp at h

/-- Behind blanks, a word without blanks is found whole. -/
theorem dropWhile_isBlank_append {blanks word : List Char}
    (hblanks : ∀ c ∈ blanks, isBlank c = true) (hword : ∀ c ∈ word, isBlank c = false) :
    (blanks ++ word).dropWhile isBlank = word := by
  rw [List.dropWhile_append_of_pos hblanks]
  cases word with
  | nil => rfl
  | cons c s => rw [List.dropWhile_cons_of_neg (by simp [hword c])]

/-- A surname that a key gives is read off it. -/
theorem surnameReference?_of_givesSurname {key surname : List Char}
    (h : GivesSurname key surname) : surnameReference? key = some surname := by
  obtain ⟨article, blanks, rfl, harticle, ⟨hsome, hblanks⟩, hname, hword⟩ := h
  have hlength : surname.length < (blanks ++ surname).length := by
    rw [List.length_append]
    exact Nat.lt_add_of_pos_left (List.length_pos_iff.mpr hsome)
  have hall : surname.all (!isBlank ·) = true := by simpa using hword
  rcases harticle with rfl | rfl
  · simp only [List.cons_append, List.nil_append, surnameReference?,
      dropWhile_isBlank_append hblanks hword]
    exact if_pos ⟨.inl trivial, hlength, hname, hall⟩
  · simp only [List.cons_append, List.nil_append, surnameReference?,
      dropWhile_isBlank_append hblanks hword]
    exact if_pos ⟨.inr trivial, hlength, hname, hall⟩

/-- The surname that is read off a key is the one that the key gives. -/
theorem surnameReference?_eq_some_iff {key surname : List Char} :
    surnameReference? key = some surname ↔ GivesSurname key surname :=
  ⟨givesSurname_of_surnameReference?, surnameReference?_of_givesSurname⟩

end Name

namespace Cluster

open scoped List

variable {threshold : Float}

/-- A candidate is a cluster among the others that gives the reference a score. -/
theorem mem_candidates {surname : List Char} {reference : Cluster} {others : List Cluster}
    {i : Nat} {score : Float} :
    (i, score) ∈ candidates threshold surname reference others ↔
      ∃ host, others[i]? = some host ∧
        surnameScore? threshold surname reference host = some score := by
  simp only [candidates, List.mem_filterMap, Prod.exists, List.mem_zipIdx_iff_getElem?,
    Option.map_eq_some_iff, Prod.mk.injEq]
  constructor
  · rintro ⟨host, _, hhost, _, hscore, rfl, rfl⟩
    exact ⟨host, hhost, hscore⟩
  · rintro ⟨host, hhost, hscore⟩
    exact ⟨host, i, hhost, score, hscore, rfl, rfl⟩

/-- A host is a full name with a similar surname and agreeing places. -/
theorem surnameScore?_eq_some_iff {surname : List Char} {reference host : Cluster}
    {score : Float} :
    surnameScore? threshold surname reference host = some score ↔
      host.isFullName = true ∧
        Similarity.toFloat (Similarity.ratio (Name.familyName host.key.toList) surname) = score ∧
          threshold ≤ score ∧ host.compatible reference = true := by
  rw [surnameScore?]
  constructor
  · intro h
    split at h
    · rename_i hfull
      dsimp only at h
      split at h
      · rename_i hfits
        obtain rfl := Option.some.inj h
        exact ⟨hfull, rfl, hfits.1, hfits.2⟩
      · simp at h
    · simp at h
  · rintro ⟨hfull, rfl, hlow, hcompatible⟩
    rw [if_pos hfull]
    exact if_pos ⟨hlow, hcompatible⟩

theorem isFullName_of_surnameReference? {c : Cluster} {surname : List Char}
    (h : Name.surnameReference? c.key.toList = some surname) : c.isFullName = false := by
  simp [isFullName, h]

/-- One step either leaves a cluster where it stands or moves a reference to its host. -/
theorem attachFrom_cons_cases (done : List Cluster) (c : Cluster) (rest : List Cluster) :
    (attachFrom threshold done (c :: rest)).clusters =
        (attachFrom threshold (done ++ [c]) rest).clusters ∨
      ∃ surname l host l' score,
        Name.surnameReference? c.key.toList = some surname ∧
        surnameScore? threshold surname c host = some score ∧
        done ++ rest = l ++ host :: l' ∧
        (attachFrom threshold done (c :: rest)).clusters =
          (attachFrom threshold ((l ++ host.absorb c :: l').take done.length)
            ((l ++ host.absorb c :: l').drop done.length)).clusters := by
  rw [attachFrom]
  split
  · exact .inl rfl
  · rename_i surname hsurname
    dsimp only
    split
    · rename_i i score hfound
      obtain ⟨host, hhost, hscore⟩ := mem_candidates.mp (hfound ▸ List.mem_singleton_self _)
      obtain ⟨hi, rfl⟩ := List.getElem?_eq_some_iff.mp hhost
      obtain ⟨l, host, l', heq, hlength, hmodify⟩ :=
        List.exists_of_modify (fun d : Cluster => d.absorb c) hi
      refine .inr ⟨surname, l, host, l', score, hsurname, ?_, heq, by rw [hmodify]⟩
      simpa [heq, ← hlength] using hscore
    · exact .inl rfl

/-- The recursion of attaching, with what each step does to the clusters. -/
theorem attachFrom_induction {motive : List Cluster → List Cluster → List Cluster → Prop}
    (nil : ∀ done, motive done [] done)
    (keep : ∀ done c rest out, motive (done ++ [c]) rest out → motive done (c :: rest) out)
    (attach : ∀ done c rest out surname l host l' score,
      Name.surnameReference? c.key.toList = some surname →
      surnameScore? threshold surname c host = some score →
      done ++ rest = l ++ host :: l' →
      motive ((l ++ host.absorb c :: l').take done.length)
        ((l ++ host.absorb c :: l').drop done.length) out →
      motive done (c :: rest) out)
    (done todo : List Cluster) : motive done todo (attachFrom threshold done todo).clusters := by
  match todo with
  | [] =>
      rw [attachFrom]
      exact nil done
  | c :: rest =>
      rcases @attachFrom_cons_cases threshold done c rest with
        h | ⟨surname, l, host, l', score, hsurname, hscore, heq, h⟩
      · rw [h]
        exact keep _ _ _ _ (attachFrom_induction nil keep attach _ rest)
      · rw [h]
        have hlength : (done ++ rest).length = (l ++ host.absorb c :: l').length := by simp [heq]
        exact attach _ _ _ _ _ _ _ _ _ hsurname hscore heq
          (attachFrom_induction nil keep attach _ _)
termination_by todo.length
decreasing_by
  · simp
  · simp at hlength ⊢
    omega

/-- Attachment loses no member and adds none. -/
theorem members_attachFrom_perm (done todo : List Cluster) :
    allMembers (attachFrom threshold done todo).clusters ~ allMembers (done ++ todo) := by
  apply attachFrom_induction
    (motive := fun done todo out => allMembers out ~ allMembers (done ++ todo))
  · intro done
    rw [List.append_nil]
  · intro done c rest out h
    rwa [List.append_assoc] at h
  · intro done c rest out surname l host l' score _ _ heq h
    rw [List.take_append_drop] at h
    calc
      allMembers out ~ allMembers (l ++ host.absorb c :: l') := h
      _ = allMembers l ++ host.members ++ (c.members ++ allMembers l') := by simp
      _ ~ c.members ++ (allMembers l ++ host.members ++ allMembers l') :=
        List.perm_append_comm_assoc ..
      _ = c.members ++ allMembers (done ++ rest) := by simp [heq]
      _ = c.members ++ (allMembers done ++ allMembers rest) := by rw [allMembers_append]
      _ ~ allMembers done ++ (c.members ++ allMembers rest) := List.perm_append_comm_assoc ..
      _ = allMembers (done ++ c :: rest) := by simp

/-- Attaching moves members from cluster to cluster and does nothing else to them. -/
theorem members_attachSurnames_perm (cs : List Cluster) :
    allMembers (attachSurnames threshold cs).clusters ~ allMembers cs :=
  members_attachFrom_perm [] cs

section Invariant

variable {P Q : Cluster → Prop} (start : ∀ c, P c → Q c)
  (absorb : ∀ host c surname score, Q host → P c →
    Name.surnameReference? c.key.toList = some surname →
    surnameScore? threshold surname c host = some score → Q (host.absorb c))
include start absorb

/-- What clusters have and hosts keep when they take over references, clusters have at the end. -/
theorem attachSurnames_forall {cs : List Cluster} (h : ∀ c ∈ cs, P c) :
    ∀ c ∈ (attachSurnames threshold cs).clusters, Q c := by
  -- A cluster that is no full name is no host, so it still is as it was given.
  have hready : ∀ c ∈ cs, Q c ∧ (c.isFullName = false → P c) :=
    fun c hc => ⟨start c (h c hc), fun _ => h c hc⟩
  revert hready
  apply attachFrom_induction (motive := fun done todo out =>
    (∀ c ∈ done ++ todo, Q c ∧ (c.isFullName = false → P c)) → ∀ c ∈ out, Q c) _ _ _ [] cs
  · intro done hready c hc
    exact (hready c (List.mem_append_left _ hc)).1
  · intro done c rest out ih hready
    apply ih
    rwa [List.append_assoc]
  · intro done c rest out surname l host l' score hsurname hscore heq ih hready
    apply ih
    rw [List.take_append_drop]
    have hreference := hready c (by simp)
    have hothers : ∀ d ∈ l ++ host :: l', Q d ∧ (d.isFullName = false → P d) := by
      intro d hd
      rw [← heq] at hd
      apply hready d
      rcases List.mem_append.mp hd with hd | hd
      · exact List.mem_append_left _ hd
      · exact List.mem_append_right _ (List.mem_cons_of_mem _ hd)
    intro d hd
    rcases List.mem_append.mp hd with hd | hd
    · exact hothers d (List.mem_append_left _ hd)
    · rcases List.mem_cons.mp hd with rfl | hd
      · constructor
        · exact absorb host c surname score (hothers host (by simp)).1
            (hreference.2 (isFullName_of_surnameReference? hsurname)) hsurname hscore
        · intro hfull
          have hhost : host.isFullName = false := hfull
          rw [(surnameScore?_eq_some_iff.mp hscore).1] at hhost
          exact absurd hhost (by simp)
      · exact hothers d (by simp [hd])

end Invariant

end Cluster

end Prosopography
