import Prosopography.Proofs.Pattern.Erasure
import Prosopography.Proofs.Pattern.Respacing

/-!
# Removing matches in texts of other spacing

A run of blanks is kept as a whole if nothing is found before it and a match that begins inside a
run could as well begin one blank earlier. Then what removing leaves of two texts that differ in
spacing only differs in spacing only.
-/

namespace Prosopography

open Text Cursor

/-- If there is an end from a position inside a run of blanks, there is one from the position
before. -/
def Retreating (find : Search) : Prop :=
  ∀ ⦃b s x y⦄, isBlank y = true → isBlank x = true →
    (find ⟨y :: b, x :: s⟩).isSome = true → (find ⟨b, y :: x :: s⟩).isSome = true

namespace Erases

variable {find : Search} {b s t w : List Char} {x : Char}

/-- Where nothing is found before a run of blanks, the whole run is kept. -/
theorem of_run (hfind : Retreating find) (hw : ∀ y ∈ x :: w, isBlank y = true)
    (h : Erases find ⟨b, x :: w ++ s⟩ t) (hnone : find ⟨b, x :: w ++ s⟩ = none) :
    ∃ u, t = x :: w ++ u ∧ Erases find ⟨w.reverse ++ x :: b, s⟩ u := by
  induction w generalizing b x t with
  | nil => exact h.of_none hnone
  | cons y w ih =>
      obtain ⟨hx, hw⟩ := List.forall_mem_cons.mp hw
      obtain ⟨u, rfl, hrest⟩ := h.of_none hnone
      have hnext : find ⟨x :: b, y :: w ++ s⟩ = none := by
        rw [← Option.not_isSome_iff_eq_none]
        intro hsome
        have hbefore := hfind hx (hw y List.mem_cons_self) hsome
        exact Option.not_isSome_iff_eq_none.mpr hnone hbefore
      obtain ⟨u, rfl, hend⟩ := ih hw hrest hnext
      exact ⟨u, rfl, by simpa using hend⟩

/-- Texts that differ in spacing only differ in spacing only after erasing. -/
theorem squeeze_eq (hagrees : Agrees find) (hretreats : Retreating find) {c c' : Cursor}
    {t t' : List Char} (hc : Aligned c c') (h : Erases find c t) (h' : Erases find c' t') :
    squeeze t = squeeze t' := by
  obtain ⟨hfind, hfind'⟩ | ⟨d, d', hfind, hfind', hd⟩ := rel_cases (hagrees hc)
  · cases hc.onward with
    | stop => rw [h.of_nil, h'.of_nil]
    | char hx hnext =>
        obtain ⟨u, rfl, hu⟩ := h.of_none hfind
        obtain ⟨u', rfl, hu'⟩ := h'.of_none hfind'
        have hx := Bool.eq_false_iff.mp hx
        rw [squeeze_cons u hx, squeeze_cons u' hx, squeeze_eq hagrees hretreats hnext hu hu']
    | run hw hw' hnext =>
        obtain ⟨u, rfl, hu⟩ := h.of_run hretreats hw hfind
        obtain ⟨u', rfl, hu'⟩ := h'.of_run hretreats hw' hfind'
        rw [squeeze_append_of_isBlank u (List.cons_ne_nil _ _) hw,
          squeeze_append_of_isBlank u' (List.cons_ne_nil _ _) hw',
          squeeze_eq hagrees hretreats hnext hu hu']
  · obtain ⟨hlt, h⟩ := h.of_some hfind
    exact squeeze_eq hagrees hretreats hd h (h'.of_some hfind').2
termination_by c.rest.length

end Erases

namespace Pattern

variable {p : Pattern}

/-- What a match from inside a run of blanks leads to, one from the position before leads to as
well. -/
def Retreats (p : Pattern) : Prop :=
  ∀ ⦃f : Cursor → Prop⦄ ⦃b s x y⦄, isBlank y = true → isBlank x = true →
    p.Leads f ⟨y :: b, x :: s⟩ → p.Leads f ⟨b, y :: x :: s⟩

theorem Retreats.first (h : p.Retreats) (k : Search) :
    Retreating (p.first k) := by
  intro b s x y hy hx hsome
  rw [isSome_first] at hsome ⊢
  exact h hy hx hsome

theorem Solid.not_leads (h : p.Solid) {f : Cursor → Prop} {b s : List Char} {x y : Char}
    (hy : isBlank y = true) (hx : isBlank x = true) : ¬ p.Leads f ⟨y :: b, x :: s⟩ := by
  rintro ⟨d, hd, -⟩
  have hsome : (p.first some ⟨y :: b, x :: s⟩).isSome = true := isSome_first p |>.mpr ⟨d, hd, rfl⟩
  rw [(h advancing_some.agrees).blind hy hx] at hsome
  cases hsome

/-- A solid pattern has no match within blanks, and so none to retreat from. -/
theorem Solid.retreats (h : p.Solid) : p.Retreats :=
  fun _ _ _ _ _ hy hx hleads => absurd hleads (h.not_leads hy hx)

theorem Retreats.append {a b : Pattern} (h : a.Retreats) : (a ++ b).Retreats := by
  intro f c s x y hy hx hleads
  exact leads_seq.mpr (h hy hx (leads_seq.mp hleads))

theorem Retreats.alt {a b : Pattern} (ha : a.Retreats) (hb : b.Retreats) : (alt a b).Retreats :=
  fun _ _ _ _ _ hy hx hleads => leads_alt.mpr ((leads_alt.mp hleads).imp (ha hy hx) (hb hy hx))

theorem retreats_anyBlanks : (many isBlank).Retreats :=
  fun _ _ _ _ _ hy _ hleads => leads_many.mpr (.inl ⟨hy, hleads⟩)

theorem retreats_someBlanks : (some1 isBlank).Retreats := by
  intro f b s x y hy hx hleads
  obtain ⟨-, hleads⟩ := leads_one.mp (leads_seq.mp hleads)
  exact leads_seq.mpr (leads_one.mpr ⟨hy, leads_many.mpr (.inl ⟨hx, hleads⟩)⟩)

/-- What may stand before blanks but need not does not matter inside a run. -/
theorem retreats_optional_append {q : Pattern} (h : q.Solid) (hp : p.Retreats) :
    (optional q ++ p).Retreats := by
  intro f b s x y hy hx hleads
  obtain hq | hempty := leads_alt.mp (leads_seq.mp hleads)
  · exact absurd hq (h.not_leads hy hx)
  · exact leads_seq.mpr (leads_alt.mpr (.inr (leads_empty.mpr (hp hy hx (leads_empty.mp hempty)))))

theorem advancing_atEnd? : Advancing atEnd? where
  agrees c c' h := by
    cases h.onward with
    | stop => exact .some h
    | char | run => exact .none
  advances b s x y _ _ hsome := by simp [atEnd?] at hsome

section Squeeze

variable {s s' : List Char}

/-- Removing a pattern keeps texts alike that only differ in their blanks. -/
theorem squeeze_removeAll (hp : p.consumes = true) (hcarries : p.Carries Advancing Agrees)
    (hretreats : p.Retreats) (h : Aligned (.ofText s) (.ofText s')) :
    squeeze (p.removeAll s) = squeeze (p.removeAll s') :=
  Erases.squeeze_eq (hcarries advancing_some) (hretreats.first some) h (erases_removeAll hp s)
    (erases_removeAll hp s')

/-- Removing a pattern at the end keeps texts alike that only differ in their blanks. -/
theorem squeeze_removeAtEnd (hp : p.consumes = true) (hcarries : p.Carries Advancing Agrees)
    (hretreats : p.Retreats) (h : Aligned (.ofText s) (.ofText s')) :
    squeeze (p.removeAtEnd s) = squeeze (p.removeAtEnd s') :=
  Erases.squeeze_eq (hcarries advancing_atEnd?) (hretreats.first atEnd?) h (erases_removeAtEnd hp s)
    (erases_removeAtEnd hp s')

/-- Removing a pattern at the start keeps texts alike that only differ in their blanks. -/
theorem squeeze_removeAtStart (hcarries : p.Carries Advancing Agrees)
    (h : Aligned (.ofText s) (.ofText s')) :
    squeeze (p.removeAtStart s) = squeeze (p.removeAtStart s') := by
  obtain ⟨hnone, hnone'⟩ | ⟨d, d', hd, hd', hrel⟩ := rel_cases (hcarries advancing_some h)
  · rw [removeAtStart_of_first_eq_none hnone, removeAtStart_of_first_eq_none hnone']
    exact h.rest
  · rw [removeAtStart_of_first hd, removeAtStart_of_first hd', hrel.rest]

end Squeeze

end Pattern

end Prosopography
