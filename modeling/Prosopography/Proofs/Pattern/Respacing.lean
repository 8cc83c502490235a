import Prosopography.Proofs.Pattern.Aligned
import Prosopography.Proofs.Text.Blank

/-!
# Matches in texts of other spacing

A run of blanks goes by as a whole if no match that stops inside it is of use, and whether one is
depends on what has to follow. So searches come in three grades. All of them agree on aligned
positions; some go on from the next position of a run wherever they go on from one inside it; and
some go on from no position inside a run. A pattern makes of what follows it, as a search of one
grade, a search of another.
-/

namespace Prosopography

open Text Cursor

theorem rel_cases {α β : Type} {R : α → β → Prop} {o : Option α} {o' : Option β}
    (h : Option.Rel R o o') :
    (o = none ∧ o' = none) ∨ ∃ a b, o = some a ∧ o' = some b ∧ R a b := by
  cases h with
  | some h => exact .inr ⟨_, _, rfl, rfl, h⟩
  | none => exact .inl ⟨rfl, rfl⟩

theorem rel_orElse {α β : Type} {R : α → β → Prop} {o u : Option α} {o' u' : Option β}
    (ho : Option.Rel R o o') (hu : Option.Rel R u u') : Option.Rel R (o <|> u) (o' <|> u') := by
  cases ho with
  | some h => exact .some h
  | none => exact hu

theorem orElse_eq_left {α : Type} {o u : Option α} (h : u.isSome = true → o.isSome = true) :
    (o <|> u) = o := by
  cases o with
  | some a => rfl
  | none =>
      cases u with
      | none => rfl
      | some a => simp at h

theorem rel_bind {α β γ δ : Type} {R : α → β → Prop} {S : γ → δ → Prop} {o : Option α}
    {o' : Option β} {f : α → Option γ} {f' : β → Option δ} (ho : Option.Rel R o o')
    (hf : ∀ a b, R a b → Option.Rel S (f a) (f' b)) : Option.Rel S (o.bind f) (o'.bind f') := by
  cases ho with
  | some h => exact hf _ _ h
  | none => exact .none

/-- Where a search that starts at a position ends, if it finds an end. -/
abbrev Search := Cursor → Option Cursor

/-- From aligned positions the ends are aligned, or there is none from either. -/
def Agrees (k : Search) : Prop := ∀ ⦃c c'⦄, Aligned c c' → Option.Rel Aligned (k c) (k c')

/-- If there is an end from a position inside a run of blanks, there is one from the next. -/
structure Advancing (k : Search) : Prop where
  agrees : Agrees k
  advances : ∀ ⦃b s x y⦄, isBlank y = true → isBlank x = true →
    (k ⟨y :: b, x :: s⟩).isSome = true → (k ⟨x :: y :: b, s⟩).isSome = true

/-- There is no end from a position inside a run of blanks. -/
structure Blind (k : Search) : Prop where
  agrees : Agrees k
  blind : ∀ ⦃b s x y⦄, isBlank y = true → isBlank x = true → k ⟨y :: b, x :: s⟩ = none

theorem Blind.advancing {k : Search} (h : Blind k) : Advancing k where
  agrees := h.agrees
  advances b s x y hy hx hsome := by simp [h.blind hy hx] at hsome

section OrElse

variable {k l : Search}

theorem Agrees.orElse (hk : Agrees k) (hl : Agrees l) : Agrees fun c => k c <|> l c :=
  fun _ _ h => rel_orElse (hk h) (hl h)

theorem Advancing.orElse (hk : Advancing k) (hl : Advancing l) :
    Advancing fun c => k c <|> l c where
  agrees := hk.agrees.orElse hl.agrees
  advances b s x y hy hx h := by
    simp only [Option.orElse_eq_orElse, Option.orElse_eq_or, Option.isSome_or,
      Bool.or_eq_true] at h ⊢
    exact h.imp (hk.advances hy hx) (hl.advances hy hx)

theorem Blind.orElse (hk : Blind k) (hl : Blind l) : Blind fun c => k c <|> l c where
  agrees := hk.agrees.orElse hl.agrees
  blind b s x y hy hx := by
    rw [hk.blind hy hx, hl.blind hy hx]
    rfl

end OrElse

theorem advancing_some : Advancing some where
  agrees _ _ h := .some h
  advances _ _ _ _ _ _ _ := rfl

namespace Pattern

/-- Before a search of grade `G` the pattern makes one of grade `H`. -/
def Carries (p : Pattern) (G H : Search → Prop) : Prop := ∀ ⦃k⦄, G k → H (p.first k)

/-- Nothing matches inside a run of blanks, whatever has to follow. -/
abbrev Solid (p : Pattern) : Prop := p.Carries Agrees Blind

section

variable {p : Char → Bool}

/-- A character that is no blank has no match within blanks. -/
theorem solid_one (hp : LacksBlanks p) : (one p).Solid := by
  intro k hk
  constructor
  · intro c c' h
    cases h.onward with
    | stop => exact .none
    | @char b s b' s' x hx hnext =>
        by_cases hpx : p x = true
        · simpa only [first, if_pos hpx] using hk hnext
        · simpa only [first, if_neg hpx] using .none
    | @run b w s b' w' s' x x' hw hw' hnext =>
        simp only [List.cons_append, first, hp x (hw x List.mem_cons_self),
          hp x' (hw' x' List.mem_cons_self), Bool.false_eq_true, if_false]
        exact .none
  · intro b s x y _ hx
    simp [first, hp x hx]

theorem rel_skip? {w : List Char} (hw : ∀ x ∈ w, isBlank x = false) {c c' : Cursor}
    (h : Aligned c c') : Option.Rel Aligned (c.skip? w) (c'.skip? w) := by
  induction w generalizing c c' with
  | nil => exact .some h
  | cons z w ih =>
      have hz : ∀ {x : Char}, isBlank x = true → z ≠ x := by
        rintro x hx rfl
        simp [hw z List.mem_cons_self] at hx
      cases h.onward with
      | stop => exact .none
      | @char b s b' s' x hx hnext =>
          rw [skip?, skip?]
          split
          · exact ih (fun x hx => hw x (List.mem_cons_of_mem z hx)) hnext
          · exact .none
      | @run b u s b' u' s' x x' hu hu' hnext =>
          rw [List.cons_append, List.cons_append, skip?, skip?,
            if_neg (hz (hu x List.mem_cons_self)), if_neg (hz (hu' x' List.mem_cons_self))]
          exact .none

/-- A word without blanks has no match within blanks. -/
theorem solid_chars {w : List Char} (hne : w ≠ []) (hw : ∀ x ∈ w, isBlank x = false) :
    (chars w).Solid := by
  intro k hk
  constructor
  · intro c c' h
    exact rel_bind (rel_skip? hw h) fun _ _ hd => hk hd
  · intro b s x y _ hx
    cases w with
    | nil => exact absurd rfl hne
    | cons z w =>
        have hz : z ≠ x := by
          rintro rfl
          simp [hw z List.mem_cons_self] at hx
        rw [first, skip?, if_neg hz]
        rfl

theorem isEdge_eq_of_aligned (hp : LacksBlanks p) {c c' : Cursor} (h : Aligned c c') :
    isEdge p c = isEdge p c' := by
  have hany {s s' : List Char} (hs : squeeze s = squeeze s') : s.head?.any p = s'.head?.any p := by
    have hhead := congrArg (fun t => t.head?.any p) hs
    simpa only [head?_squeeze, hp.any_map_plain] using hhead
  rw [isEdge, isEdge, hany h.before, hany h.rest]

/-- No word has an edge within blanks. -/
theorem solid_edge (hp : LacksBlanks p) : (edge p).Solid := by
  intro k hk
  constructor
  · intro c c' h
    rw [first, first, isEdge_eq_of_aligned hp h]
    split
    · exact hk h
    · exact .none
  · intro b s x y hy hx
    have hno : isEdge p ⟨y :: b, x :: s⟩ = false := by simp [isEdge, hp y hy, hp x hx]
    rw [first, hno]
    rfl

/-- A run without blanks agrees if the search behind it does. -/
theorem agrees_many (hp : LacksBlanks p) : (many p).Carries Agrees Agrees := by
  intro k hk c c' h
  rw [first, first]
  cases h.onward with
  | stop => exact hk h
  | @char b s b' s' x hx hnext =>
      rw [firstMany, firstMany]
      refine rel_orElse ?_ (hk h)
      split
      · exact agrees_many hp hk hnext
      · exact .none
  | @run b w s b' w' s' x x' hw hw' hnext =>
      rw [List.cons_append, List.cons_append, firstMany, firstMany, hp x (hw x List.mem_cons_self),
        hp x' (hw' x' List.mem_cons_self)]
      exact rel_orElse .none (hk h)
termination_by _ _ c => c.rest.length

/-- A stop inside a run of blanks is never better than one after it. -/
theorem firstMany_run {k : Search} (hk : Advancing k) {x : Char}
    {w b s : List Char} (hx : isBlank x = true) (hw : ∀ y ∈ w, isBlank y = true ∧ p y = true) :
    firstMany p k (x :: b) (w ++ s) = firstMany p k (w.reverse ++ x :: b) s := by
  induction w generalizing x b with
  | nil => rfl
  | cons y w ih =>
      obtain ⟨⟨hy, hpy⟩, hw⟩ := List.forall_mem_cons.mp hw
      have hfurther : (k ⟨x :: b, y :: (w ++ s)⟩).isSome = true →
          (firstMany p k (y :: x :: b) (w ++ s)).isSome = true :=
        fun h => isSome_firstMany.mpr ⟨_, .manyStop, hk.advances hx hy h⟩
      rw [List.cons_append, firstMany, if_pos hpy, orElse_eq_left hfurther, ih hy hw]
      simp

theorem forall_mem_run (hp : HoldsBlanks p) {r s : List Char} (hr : ∀ y ∈ r, isBlank y = true)
    (hline : '\n' ∉ r ++ s) : ∀ y ∈ r, isBlank y = true ∧ p y = true := by
  intro y hy
  refine ⟨hr y hy, hp y (hr y hy) ?_⟩
  rintro rfl
  exact hline (List.mem_append_left s hy)

/-- A run over blanks agrees if the search behind it advances over them. -/
theorem agrees_many_of_holdsBlanks (hp : HoldsBlanks p) : (many p).Carries Advancing Agrees := by
  intro k hk c c' h
  rw [first, first]
  cases h.onward with
  | stop => exact hk.agrees h
  | @char b s b' s' x hx hnext =>
      rw [firstMany, firstMany]
      refine rel_orElse ?_ (hk.agrees h)
      split
      · exact agrees_many_of_holdsBlanks hp hk hnext
      · exact .none
  | @run b w s b' w' s' x x' hw hw' hnext =>
      obtain ⟨⟨hx, hpx⟩, hw⟩ := List.forall_mem_cons.mp (forall_mem_run hp hw h.line)
      obtain ⟨⟨hx', hpx'⟩, hw'⟩ := List.forall_mem_cons.mp (forall_mem_run hp hw' h.line')
      rw [List.cons_append, List.cons_append, firstMany, firstMany, if_pos hpx, if_pos hpx',
        firstMany_run hk hx hw, firstMany_run hk hx' hw']
      exact rel_orElse (agrees_many_of_holdsBlanks hp hk hnext) (hk.agrees h)
termination_by _ _ c => c.rest.length

/-- A run over blanks advances over them if the search behind it does. -/
theorem advancing_many (hp : HoldsBlanks p) : (many p).Carries Advancing Advancing := by
  intro k hk
  refine ⟨agrees_many_of_holdsBlanks hp hk, fun b s x y hy hx hsome => ?_⟩
  rw [isSome_first] at hsome ⊢
  obtain ⟨-, h⟩ | h := leads_many.mp hsome
  · exact h
  · exact ⟨_, .manyStop, hk.advances hy hx h⟩

/-- A lazy run does not stop within blanks if the search behind it is blind there. -/
theorem firstFew_run {k : Search} (hk : Blind k) {x : Char} {w b s : List Char}
    (hx : isBlank x = true) (hw : ∀ y ∈ w, isBlank y = true ∧ p y = true) :
    firstFew p k (x :: b) (w ++ s) = firstFew p k (w.reverse ++ x :: b) s := by
  induction w generalizing x b with
  | nil => rfl
  | cons y w ih =>
      obtain ⟨⟨hy, hpy⟩, hw⟩ := List.forall_mem_cons.mp hw
      rw [List.cons_append, firstFew, if_pos hpy, hk.blind hx hy, ih hy hw]
      simp

/-- A lazy run over blanks agrees if the search behind it is blind within them. -/
theorem agrees_few (hp : HoldsBlanks p) : (few p).Carries Blind Agrees := by
  intro k hk c c' h
  rw [first, first]
  cases h.onward with
  | stop => exact hk.agrees h
  | @char b s b' s' x hx hnext =>
      rw [firstFew, firstFew]
      refine rel_orElse (hk.agrees h) ?_
      split
      · exact agrees_few hp hk hnext
      · exact .none
  | @run b w s b' w' s' x x' hw hw' hnext =>
      obtain ⟨⟨hx, hpx⟩, hw⟩ := List.forall_mem_cons.mp (forall_mem_run hp hw h.line)
      obtain ⟨⟨hx', hpx'⟩, hw'⟩ := List.forall_mem_cons.mp (forall_mem_run hp hw' h.line')
      rw [List.cons_append, List.cons_append, firstFew, firstFew, if_pos hpx, if_pos hpx',
        firstFew_run hk hx hw, firstFew_run hk hx' hw']
      exact rel_orElse (hk.agrees h) (agrees_few hp hk hnext)
termination_by _ _ c => c.rest.length

end

section Carries

variable {p a b : Pattern} {G H K : Search → Prop}

/-- What a pattern makes of searches that agree it makes of those that advance. -/
theorem Carries.restrict (h : p.Carries Agrees H) : p.Carries Advancing H := fun _ hk => h hk.agrees

theorem Carries.agrees (h : p.Carries G Blind) : p.Carries G Agrees := fun _ hk => (h hk).agrees

theorem Carries.advancing (h : p.Carries G Blind) : p.Carries G Advancing :=
  fun _ hk => (h hk).advancing

theorem Carries.agrees_of_advancing (h : p.Carries G Advancing) : p.Carries G Agrees :=
  fun _ hk => (h hk).agrees

/-- Patterns one after the other carry a search from grade to grade. -/
theorem Carries.append (ha : a.Carries H K) (hb : b.Carries G H) : (a ++ b).Carries G K :=
  fun _ hk => ha (hb hk)

/-- A choice of patterns is blind within blanks if both of them are. -/
theorem Carries.alt (ha : a.Carries G Blind) (hb : b.Carries G Blind) :
    (Pattern.alt a b).Carries G Blind :=
  fun _ hk => (ha hk).orElse (hb hk)

theorem Carries.alt_agrees (ha : a.Carries G Agrees) (hb : b.Carries G Agrees) :
    (Pattern.alt a b).Carries G Agrees :=
  fun _ hk => (ha hk).orElse (hb hk)

theorem agrees_optional (h : p.Solid) : (optional p).Carries Agrees Agrees :=
  fun _ hk => (h hk).agrees.orElse hk

theorem advancing_optional (h : p.Carries Advancing Blind) :
    (optional p).Carries Advancing Advancing :=
  fun _ hk => (h hk).advancing.orElse hk

end Carries

theorem solid_some1 {q : Char → Bool} (hq : LacksBlanks q) : (some1 q).Solid :=
  Carries.append (solid_one hq) (agrees_many hq)

/-- Some blanks take what is left of a run, wherever in the run they begin. -/
theorem agrees_someBlanks : (some1 isBlank).Carries Advancing Agrees := by
  intro k hk c c' h
  change Option.Rel Aligned ((one isBlank).first ((many isBlank).first k) c)
    ((one isBlank).first ((many isBlank).first k) c')
  cases h.onward with
  | stop => exact .none
  | @char b s b' s' x hx hnext =>
      simp only [first, hx, Bool.false_eq_true, if_false]
      exact .none
  | @run b w s b' w' s' x x' hw hw' hnext =>
      have hhold {r : List Char} (hr : ∀ y ∈ r, isBlank y = true) :
          ∀ y ∈ r, isBlank y = true ∧ isBlank y = true := fun y hy => ⟨hr y hy, hr y hy⟩
      obtain ⟨hx, hw⟩ := List.forall_mem_cons.mp hw
      obtain ⟨hx', hw'⟩ := List.forall_mem_cons.mp hw'
      simp only [List.cons_append, first, hx, hx', if_true, firstMany_run hk hx (hhold hw),
        firstMany_run hk hx' (hhold hw')]
      exact agrees_many_of_holdsBlanks holdsBlanks_isBlank hk hnext

/-- Whether a text has characters and none of them is blank. -/
def isUnbroken (s : String) : Bool := !s.toList.isEmpty && s.toList.all (!isBlank ·)

theorem solid_text (s : String) (h : isUnbroken s = true) : (text s).Solid := by
  obtain ⟨hne, hall⟩ := Bool.and_eq_true_iff.mp h
  refine solid_chars (by simpa using hne) fun x hx => ?_
  simpa using List.all_eq_true.mp hall x hx

/-- A choice of words without blanks has no match within blanks. -/
theorem solid_words (ws : List String) (h : ws.all isUnbroken = true) :
    (anyOf (ws.map text)).Solid := by
  induction ws with
  | nil => exact solid_one fun _ _ => rfl
  | cons w ws ih =>
      obtain ⟨hw, hws⟩ := Bool.and_eq_true_iff.mp (List.all_cons.symm.trans h)
      cases ws with
      | nil => exact solid_text w hw
      | cons v ws => exact (solid_text w hw).alt (ih hws)

end Pattern

end Prosopography
