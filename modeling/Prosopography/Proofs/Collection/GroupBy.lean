import Prosopography.Collection.GroupBy
import Mathlib.Data.List.Forall2
import Mathlib.Data.List.Perm.Basic

/-!
# What grouping keeps

Grouping rearranges a list and nothing else. Every group is the sublist of all
elements with one label, no label has two groups, and no group is empty.
-/

namespace Prosopography

variable {α β : Type}

/-- What is filtered out adds nothing to a concatenation. -/
theorem flatMap_filter {γ : Type} (q : α → Bool) (g : α → List γ) (l : List α) :
    (l.filter q).flatMap g = l.flatMap fun a => if q a then g a else [] := by
  induction l with
  | nil => rfl
  | cons a l ih =>
      rw [List.filter_cons, List.flatMap_cons]
      split
      · rw [List.flatMap_cons, ih]
      · rw [ih, List.nil_append]

/-- Two lists that follow each other, element by element in order, are put together. -/
theorem sublistForall₂_comp {γ : Type} {R : α → β → Prop} {S : β → γ → Prop} {T : α → γ → Prop}
    (h : ∀ a b c, R a b → S b c → T a c) {l₁ : List α} {l₂ : List β} {l₃ : List γ}
    (h₁ : List.SublistForall₂ R l₁ l₂) (h₂ : List.SublistForall₂ S l₂ l₃) :
    List.SublistForall₂ T l₁ l₃ := by
  induction h₂ generalizing l₁ with
  | nil =>
      cases h₁
      exact .nil
  | cons hbc _ ih =>
      cases h₁ with
      | nil => exact .nil
      | cons hab h₁ => exact .cons (h _ _ _ hab hbc) (ih h₁)
      | cons_right h₁ => exact .cons_right (ih h₁)
  | cons_right _ ih => exact .cons_right (ih h₁)

variable [BEq β]

/-- The labels of a list in first-seen order. -/
def labels (label : α → β) (l : List α) : List β := (groupBy label l).map (·.1)

theorem groupBy_nil (label : α → β) : groupBy label [] = [] := by
  rw [groupBy]

/-- The first element opens a group, which takes all elements of its label. -/
theorem groupBy_cons (label : α → β) (a : α) (rest : List α) :
    groupBy label (a :: rest) =
      (label a, a :: rest.filter (label · == label a)) ::
        groupBy label (rest.filter (label · != label a)) := by
  rw [groupBy]

/-- The recursion of `groupBy`: what follows an element is seen without its group. -/
theorem groupBy_induction (label : α → β) {motive : List α → Prop} (nil : motive [])
    (cons : ∀ a rest, motive (rest.filter (label · != label a)) → motive (a :: rest)) :
    ∀ l, motive l
  | [] => nil
  | a :: rest => cons a rest (groupBy_induction label nil cons _)
termination_by l => l.length
decreasing_by exact Nat.lt_succ_of_le (List.length_filter_le ..)

/-- No element is lost or repeated. -/
theorem groupBy_perm (label : α → β) (l : List α) :
    ((groupBy label l).flatMap (·.2)).Perm l := by
  induction l using groupBy_induction label with
  | nil => simp [groupBy_nil]
  | cons a rest ih =>
      rw [groupBy_cons, List.flatMap_cons, List.cons_append]
      apply List.Perm.cons
      exact (ih.append_left _).trans (List.filter_append_perm (label · == label a) rest)

theorem label_mem_labels {label : α → β} {l : List α} {g : β × List α}
    (h : g ∈ groupBy label l) : g.1 ∈ labels label l :=
  List.mem_map_of_mem h

/-- Grouping the images of elements is grouping the elements. -/
theorem groupBy_map {γ : Type} (f : γ → α) (label : α → β) (l : List γ) :
    groupBy label (l.map f) = (groupBy (label ∘ f) l).map fun g => (g.1, g.2.map f) := by
  induction l using groupBy_induction (label ∘ f) with
  | nil => simp [groupBy_nil]
  | cons a rest ih =>
      have hfilter : ∀ q : α → Bool, (rest.map f).filter q = (rest.filter (q ∘ f)).map f :=
        fun q => List.filter_map ..
      rw [List.map_cons, groupBy_cons, groupBy_cons, List.map_cons, hfilter, hfilter]
      congr 1

/-- Groups follow their first elements in the order of the list. -/
theorem sublistForall₂_groupBy (label : α → β) (l : List α) :
    List.SublistForall₂ (fun g a => g.1 = label a ∧ g.2.head? = some a) (groupBy label l) l := by
  induction l using groupBy_induction label with
  | nil =>
      rw [groupBy_nil]
      exact .nil
  | cons a rest ih =>
      rw [groupBy_cons]
      refine .cons ⟨rfl, rfl⟩ ?_
      have hrest : List.SublistForall₂ Eq (rest.filter (label · != label a)) rest :=
        List.filter_sublist.sublistForall₂
      apply sublistForall₂_comp _ ih hrest
      rintro g b _ hg rfl
      exact hg

/-- Lists that agree element by element, labels included, have groups that agree. -/
theorem forall₂_groupBy {γ : Type} {R : α → γ → Prop} {label : α → β} {label' : γ → β}
    (h : ∀ a b, R a b → label a = label' b) {l : List α} {l' : List γ}
    (hl : List.Forall₂ R l l') :
    List.Forall₂ (fun g g' => g.1 = g'.1 ∧ List.Forall₂ R g.2 g'.2) (groupBy label l)
      (groupBy label' l') := by
  induction l using groupBy_induction label generalizing l' with
  | nil =>
      cases hl
      rw [groupBy_nil, groupBy_nil]
      exact .nil
  | cons a rest ih =>
      cases hl with
      | @cons _ b _ rest' hab hrest =>
          have hfilter : ∀ q : β → Bool, List.Forall₂ R (rest.filter fun c => q (label c))
              (rest'.filter fun d => q (label' d)) := by
            intro q
            apply List.rel_filter _ hrest
            intro c d hcd
            change q (label c) = true ↔ q (label' d) = true
            rw [h c d hcd]
          rw [groupBy_cons, groupBy_cons]
          rw [h a b hab] at ih ⊢
          exact .cons ⟨rfl, .cons hab (hfilter (· == label' b))⟩ (ih (hfilter (· != label' b)))

variable [LawfulBEq β]

theorem mem_labels {label : α → β} {l : List α} {b : β} :
    b ∈ labels label l ↔ ∃ a ∈ l, label a = b := by
  induction l using groupBy_induction label with
  | nil => simp [labels, groupBy_nil]
  | cons a rest ih =>
      have hcons : labels label (a :: rest) =
          label a :: labels label (rest.filter (label · != label a)) := by
        simp [labels, groupBy_cons]
      rw [hcons, List.mem_cons, ih]
      constructor
      · rintro (rfl | ⟨x, hx, rfl⟩)
        · exact ⟨a, List.mem_cons_self, rfl⟩
        · exact ⟨x, List.mem_cons_of_mem _ (List.mem_filter.mp hx).1, rfl⟩
      · rintro ⟨x, hx, rfl⟩
        by_cases h : label x = label a
        · exact .inl h
        · have hx : x ∈ rest := by
            rcases List.mem_cons.mp hx with rfl | hx
            · exact absurd rfl h
            · exact hx
          exact .inr ⟨x, List.mem_filter.mpr ⟨hx, by simpa using h⟩, rfl⟩

theorem nodup_labels (label : α → β) (l : List α) : (labels label l).Nodup := by
  induction l using groupBy_induction label with
  | nil => simp [labels, groupBy_nil]
  | cons a rest ih =>
      rw [labels, groupBy_cons, List.map_cons, List.nodup_cons]
      refine ⟨?_, ih⟩
      intro h
      obtain ⟨x, hx, hxa⟩ := mem_labels.mp h
      have hne := (List.mem_filter.mp hx).2
      simp [hxa] at hne

/-- A group holds exactly the elements with its label, in the order of the list. -/
theorem group_eq_filter {label : α → β} {l : List α} {g : β × List α}
    (h : g ∈ groupBy label l) : g.2 = l.filter (label · == g.1) := by
  induction l using groupBy_induction label with
  | nil => simp [groupBy_nil] at h
  | cons a rest ih =>
      rw [groupBy_cons] at h
      rcases List.mem_cons.mp h with rfl | h
      · simp
      · obtain ⟨x, hx, hxg⟩ := mem_labels.mp (label_mem_labels h)
        have hne : label x ≠ label a := by simpa using (List.mem_filter.mp hx).2
        have ha : label a ≠ g.1 := fun e => hne (hxg.trans e.symm)
        rw [ih h, List.filter_cons_of_neg (by simpa using ha), List.filter_filter]
        apply List.filter_congr
        intro y _
        by_cases hy : label y = g.1
        · simp [hy, Ne.symm ha]
        · simp [hy]

theorem group_ne_nil {label : α → β} {l : List α} {g : β × List α}
    (h : g ∈ groupBy label l) : g.2 ≠ [] := by
  obtain ⟨a, ha, hag⟩ := mem_labels.mp (label_mem_labels h)
  rw [group_eq_filter h]
  exact List.ne_nil_of_mem (List.mem_filter.mpr ⟨ha, by simpa using hag⟩)

/-- Grouping told by its labels alone. -/
theorem groupBy_eq_map_labels (label : α → β) (l : List α) :
    groupBy label l = (labels label l).map fun b => (b, l.filter (label · == b)) := by
  rw [labels, List.map_map]
  conv_lhs => rw [← List.map_id (groupBy label l)]
  apply List.map_congr_left
  intro g hg
  simp only [id, Function.comp, ← group_eq_filter hg]

/-- Elements of different labels have groups of their own. -/
theorem groupBy_of_nodup {label : α → β} {l : List α} (h : (l.map label).Nodup) :
    groupBy label l = l.map fun a => (label a, [a]) := by
  induction l with
  | nil => exact groupBy_nil label
  | cons a rest ih =>
      obtain ⟨ha, hrest⟩ := List.nodup_cons.mp h
      have hne : ∀ b ∈ rest, label b ≠ label a := fun b hb he =>
        ha (List.mem_map.mpr ⟨b, hb, he⟩)
      have hnone : rest.filter (label · == label a) = [] :=
        List.filter_eq_nil_iff.mpr fun b hb => by simpa using hne b hb
      have hall : rest.filter (label · != label a) = rest :=
        List.filter_eq_self.mpr fun b hb => by simpa using hne b hb
      rw [groupBy_cons, hnone, hall, ih hrest, List.map_cons]

/-- Elements that share their labels with no others have groups of their own. -/
theorem sublist_groupBy {label : α → β} {l alone : List α} (hl : l.Nodup)
    (hsub : alone.Sublist l) (halone : ∀ a ∈ alone, ∀ b ∈ l, label a = label b → a = b) :
    (alone.map fun a => (label a, [a])).Sublist (groupBy label l) := by
  induction l using groupBy_induction label generalizing alone with
  | nil =>
      rw [List.sublist_nil.mp hsub]
      exact List.nil_sublist _
  | cons a rest ih =>
      obtain ⟨ha, hrest⟩ := List.nodup_cons.mp hl
      -- Those that stand after `a` are not in its group, wherever `a` itself belongs.
      have later : ∀ {ks : List α}, ks.Sublist rest →
          (∀ k ∈ ks, ∀ b ∈ a :: rest, label k = label b → k = b) →
          (ks.map fun k => (label k, [k])).Sublist
            (groupBy label (rest.filter (label · != label a))) := by
        intro ks hks hkalone
        have hne : ∀ k ∈ ks, label k ≠ label a := fun k hk he =>
          ha (hkalone k hk a List.mem_cons_self he ▸ hks.subset hk)
        have hfilter : ks.filter (label · != label a) = ks :=
          List.filter_eq_self.mpr fun k hk => by simpa using hne k hk
        refine ih (hrest.filter _) (hfilter ▸ hks.filter _) fun k hk b hb => ?_
        exact hkalone k hk b (List.mem_cons_of_mem a (List.mem_of_mem_filter hb))
      rw [groupBy_cons]
      cases hsub with
      | cons _ hks => exact (later hks halone).cons _
      | @cons_cons ks _ _ hks =>
          have hnone : rest.filter (label · == label a) = [] := by
            refine List.filter_eq_nil_iff.mpr fun b hb he => ha ?_
            have hab : a = b :=
              halone a List.mem_cons_self b (List.mem_cons_of_mem a hb) (beq_iff_eq.mp he).symm
            exact hab ▸ hb
          rw [hnone]
          exact (later hks fun k hk => halone k (List.mem_cons_of_mem a hk)).cons_cons _

end Prosopography
