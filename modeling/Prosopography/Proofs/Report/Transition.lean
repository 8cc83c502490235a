import Prosopography.Report.Transition
import Mathlib.Data.List.Forall2
import Mathlib.Order.Bounds.Basic

/-!
# Earliest appearances

A transition is reported with the earliest dated appearance in either role, the first one
of its year. There is one such appearance at most, and there is one in both roles for exactly
those flagged persons that have a transition.
-/

namespace Prosopography

/-- The earliest dated appearance of a person in a role, the first one of its year. -/
def Person.EarliestAs (p : Person) (role : Role) (a : Appearance) : Prop :=
  ∃ before after year, p.appearances = before ++ a :: after ∧ a.role = role ∧
    a.year = some year ∧
    (∀ b ∈ before, b.role = role → ∀ y, b.year = some y → year < y) ∧
    ∀ b ∈ after, b.role = role → ∀ y, b.year = some y → year ≤ y

theorem Person.EarliestAs.role {p : Person} {role : Role} {a : Appearance}
    (h : p.EarliestAs role a) : a.role = role := by
  obtain ⟨_, _, _, -, hrole, -⟩ := h
  exact hrole

/-- No two appearances are both the earliest. -/
theorem Person.EarliestAs.unique {p : Person} {role : Role} {a b : Appearance}
    (ha : p.EarliestAs role a) (hb : p.EarliestAs role b) : a = b := by
  obtain ⟨before, after, year, happ, harole, hayear, hbefore, hafter⟩ := ha
  obtain ⟨before', after', year', happ', hbrole, hbyear, hbefore', hafter'⟩ := hb
  -- The one that stands behind the other can be neither earlier nor of the same year.
  rcases List.append_eq_append_iff.mp (happ.symm.trans happ') with
    ⟨between, hsplit, hrest⟩ | ⟨between, hsplit, hrest⟩
  · cases between with
    | nil => exact (List.cons.inj hrest).1
    | cons c between =>
        obtain ⟨rfl, rfl⟩ := List.cons.inj hrest
        have hle := hafter b (List.mem_append_right _ List.mem_cons_self) hbrole year' hbyear
        have hlt := hbefore' a (by simp [hsplit]) harole year hayear
        omega
  · cases between with
    | nil => exact (List.cons.inj hrest).1.symm
    | cons c between =>
        obtain ⟨rfl, rfl⟩ := List.cons.inj hrest
        have hle := hafter' a (List.mem_append_right _ List.mem_cons_self) harole year hayear
        have hlt := hbefore b (by simp [hsplit]) hbrole year' hbyear
        omega

/-- The least year of a person's dated appearances in a role, and the trial of the first one that
is of this year. -/
structure Person.BeginsAs (p : Person) (role : Role) (trial : String) (year : Int) : Prop where
  least : IsLeast {y | ∃ a ∈ p.appearances, a.role = role ∧ a.year = some y} year
  first : ∃ before a after, p.appearances = before ++ a :: after ∧ a.role = role ∧
    a.year = some year ∧ a.trial = trial ∧ ∀ b ∈ before, b.role = role → b.year ≠ some year

theorem Person.EarliestAs.beginsAs {p : Person} {role : Role} {a : Appearance} {year : Int}
    (h : p.EarliestAs role a) (hyear : a.year = some year) : p.BeginsAs role a.trial year := by
  obtain ⟨before, after, y, happearances, hrole, hy, hbefore, hafter⟩ := h
  obtain rfl : y = year := Option.some.inj (hy.symm.trans hyear)
  constructor
  · refine ⟨⟨a, by simp [happearances], hrole, hyear⟩, ?_⟩
    rintro z ⟨b, hb, hbrole, hbyear⟩
    rw [happearances, List.mem_append, List.mem_cons] at hb
    rcases hb with hb | rfl | hb
    · exact Int.le_of_lt (hbefore b hb hbrole z hbyear)
    · exact Int.le_of_eq (Option.some.inj (hyear.symm.trans hbyear))
    · exact hafter b hb hbrole z hbyear
  · refine ⟨before, a, after, happearances, hrole, hyear, rfl, ?_⟩
    intro b hb hbrole hbyear
    exact Int.lt_irrefl y (hbefore b hb hbrole y hbyear)

/-- A person has a dated appearance in a role. -/
def Person.DatedAs (p : Person) (role : Role) : Prop :=
  ∃ a ∈ p.appearances, a.role = role ∧ a.year.isSome = true

instance (p : Person) (role : Role) : Decidable (p.DatedAs role) :=
  inferInstanceAs (Decidable (∃ a ∈ p.appearances, a.role = role ∧ a.year.isSome = true))

/-- A flagged person with dated appearances in both roles. -/
def Person.Crosses (p : Person) : Prop :=
  p.witnessToAccused = true ∧ p.DatedAs .witness ∧ p.DatedAs .accused

instance (p : Person) : Decidable p.Crosses :=
  inferInstanceAs (Decidable (_ ∧ _ ∧ _))

namespace Transition

/-- What a transition tells of a person. -/
structure Reports (t : Transition) (p : Person) : Prop where
  id : t.id = p.id
  key : t.key = p.key
  witness : p.BeginsAs .witness t.witnessTrial t.witnessYear
  accused : p.BeginsAs .accused t.accusedTrial t.accusedYear
  witnessAppearances : t.witnessAppearances =
    p.appearances.countP fun a => a.role = .witness ∧ a.year.isSome = true
  outcome : t.outcome = p.outcome

/-- The first entry of the least year. -/
def FirstEarliest (l : List (Appearance × Int)) (e : Appearance × Int) : Prop :=
  ∃ before after, l = before ++ e :: after ∧ (∀ x ∈ before, e.2 < x.2) ∧ ∀ x ∈ after, e.2 ≤ x.2

theorem FirstEarliest.le {l : List (Appearance × Int)} {e x : Appearance × Int}
    (h : FirstEarliest l e) (hx : x ∈ l) : e.2 ≤ x.2 := by
  obtain ⟨before, after, rfl, hbefore, hafter⟩ := h
  rcases List.mem_append.mp hx with hx | hx
  · exact Int.le_of_lt (hbefore x hx)
  · rcases List.mem_cons.mp hx with rfl | hx
    · exact Int.le_refl _
    · exact hafter x hx

/-- One more appearance takes the lead only if it is earlier. -/
theorem FirstEarliest.append {l : List (Appearance × Int)} {best : Appearance × Int}
    (h : FirstEarliest l best) (e : Appearance × Int) :
    FirstEarliest (l ++ [e]) (if e.2 < best.2 then e else best) := by
  split
  · rename_i hlt
    exact ⟨l, [], rfl, fun x hx => Int.lt_of_lt_of_le hlt (h.le hx), by simp⟩
  · rename_i hle
    obtain ⟨before, after, rfl, hbefore, hafter⟩ := h
    refine ⟨before, after ++ [e], by simp, hbefore, ?_⟩
    intro x hx
    rcases List.mem_append.mp hx with hx | hx
    · exact hafter x hx
    · rw [List.mem_singleton.mp hx]
      exact Int.not_lt.mp hle

theorem firstEarliest_of_earliest {l : List (Appearance × Int)} {e : Appearance × Int}
    (h : earliest l = some e) : FirstEarliest l e := by
  have hfold : ∀ (rest done : List (Appearance × Int)) (best : Appearance × Int),
      FirstEarliest done best → FirstEarliest (done ++ rest)
        (rest.foldl (fun best e => if e.2 < best.2 then e else best) best) := by
    intro rest
    induction rest with
    | nil =>
        intro done best hbest
        simpa using hbest
    | cons e rest ih =>
        intro done best hbest
        rw [List.append_cons, List.foldl_cons]
        exact ih _ _ (hbest.append e)
  cases l with
  | nil => simp [earliest] at h
  | cons e rest =>
      obtain rfl := Option.some.inj h
      exact hfold rest [e] e ⟨[], [], rfl, by simp, by simp⟩

example :
    let testimony (trial : String) (year : Option Int) : Appearance :=
      ⟨trial, .witness, year, "Jean"⟩
    earliest (dated [testimony "T5" (some 1595), testimony "T3" none, testimony "T2" (some 1591),
      testimony "T4" (some 1591)]) = some (testimony "T2" (some 1591), 1591) := by decide

/-- A dated appearance in a role, with its year. -/
def datedAs? (role : Role) (a : Appearance) : Option (Appearance × Int) :=
  if a.role == role then a.year.map fun y => (a, y) else none

/-- An appearance is dated in a role if it has the role and a year. -/
theorem datedAs?_eq_some_iff {role : Role} {a b : Appearance} {y : Int} :
    datedAs? role a = some (b, y) ↔ a.role = role ∧ a.year = some y ∧ a = b := by
  simp only [datedAs?, beq_iff_eq, Option.ite_none_right_eq_some, Option.map_eq_some_iff,
    Prod.mk.injEq]
  grind

theorem dated_appearancesAs (p : Person) (role : Role) :
    dated (p.appearancesAs role) = p.appearances.filterMap (datedAs? role) :=
  List.filterMap_filter

/-- The search finds the first of the earliest appearances in a role. -/
theorem earliestAs_of_earliest {p : Person} {role : Role} {a : Appearance} {year : Int}
    (h : earliest (dated (p.appearancesAs role)) = some (a, year)) : p.EarliestAs role a := by
  obtain ⟨before, after, hdated, hbefore, hafter⟩ := firstEarliest_of_earliest h
  rw [dated_appearancesAs] at hdated
  obtain ⟨l, l', happearances, rfl, htail⟩ := List.filterMap_eq_append_iff.mp hdated
  obtain ⟨skipped, b, rest, rfl, hskipped, hb, rfl⟩ := List.filterMap_eq_cons_iff.mp htail
  obtain ⟨hrole, hyear, rfl⟩ := datedAs?_eq_some_iff.mp hb
  have hdatedAs : ∀ {c : Appearance} {y : Int}, c.role = role → c.year = some y →
      datedAs? role c = some (c, y) :=
    fun hcrole hcyear => datedAs?_eq_some_iff.mpr ⟨hcrole, hcyear, rfl⟩
  refine ⟨l ++ skipped, rest, year, by rw [happearances, List.append_assoc], hrole, hyear, ?_, ?_⟩
  · intro c hc hcrole y hcyear
    rcases List.mem_append.mp hc with hc | hc
    · exact hbefore (c, y) (List.mem_filterMap.mpr ⟨c, hc, hdatedAs hcrole hcyear⟩)
    · exact absurd (hskipped c hc) (by simp [hdatedAs hcrole hcyear])
  · intro c hc hcrole y hcyear
    exact hafter (c, y) (List.mem_filterMap.mpr ⟨c, hc, hdatedAs hcrole hcyear⟩)

theorem year_of_earliest {p : Person} {role : Role} {e : Appearance × Int}
    (h : earliest (dated (p.appearancesAs role)) = some e) : e.1.year = some e.2 := by
  obtain ⟨before, after, hdated, -⟩ := firstEarliest_of_earliest h
  have hmem : e ∈ dated (p.appearancesAs role) :=
    hdated ▸ List.mem_append_right _ List.mem_cons_self
  obtain ⟨a, -, ha⟩ := List.mem_filterMap.mp hmem
  obtain ⟨y, hy, rfl⟩ := Option.map_eq_some_iff.mp ha
  exact hy

theorem beginsAs_of_earliest {p : Person} {role : Role} {e : Appearance × Int}
    (h : earliest (dated (p.appearancesAs role)) = some e) :
    p.BeginsAs role e.1.trial e.2 :=
  (earliestAs_of_earliest h).beginsAs (year_of_earliest h)

theorem isSome_datedAs?_iff {role : Role} {a : Appearance} :
    (datedAs? role a).isSome = true ↔ a.role = role ∧ a.year.isSome = true := by
  simp only [Option.isSome_iff_exists, Prod.exists, datedAs?_eq_some_iff]
  constructor
  · rintro ⟨_, y, hrole, hy, -⟩
    exact ⟨hrole, y, hy⟩
  · rintro ⟨hrole, y, hy⟩
    exact ⟨a, y, hrole, hy, rfl⟩

theorem length_dated (p : Person) (role : Role) :
    (dated (p.appearancesAs role)).length =
      p.appearances.countP fun a => a.role = role ∧ a.year.isSome = true := by
  rw [dated_appearancesAs, List.length_filterMap_eq_countP]
  apply List.countP_congr
  intro a _
  rw [isSome_datedAs?_iff, decide_eq_true_iff]

theorem earliest_eq_none_iff {l : List (Appearance × Int)} : earliest l = none ↔ l = [] := by
  cases l with
  | nil => simp [earliest]
  | cons e rest => simp [earliest]

theorem exists_earliest_iff {p : Person} {role : Role} :
    (∃ e, earliest (dated (p.appearancesAs role)) = some e) ↔ p.DatedAs role := by
  rw [← Option.ne_none_iff_exists', Ne, earliest_eq_none_iff, dated_appearancesAs,
    List.filterMap_eq_nil_iff]
  simp only [← Option.not_isSome_iff_eq_none, isSome_datedAs?_iff, Person.DatedAs, not_forall,
    not_not, exists_prop]

/-- All that a transition is made of. -/
theorem ofPerson_eq_some_iff {p : Person} {t : Transition} :
    ofPerson p = some t ↔ p.witnessToAccused = true ∧ ∃ w a : Appearance × Int,
      earliest (dated (p.appearancesAs .witness)) = some w ∧
      earliest (dated (p.appearancesAs .accused)) = some a ∧
      t = {
        id := p.id
        key := p.key
        witnessTrial := w.1.trial
        witnessYear := w.2
        accusedTrial := a.1.trial
        accusedYear := a.2
        yearsBetween := yearSpan w.2 a.2
        witnessAppearances := (dated (p.appearancesAs .witness)).length
        outcome := p.outcome } := by
  rw [ofPerson, Option.ite_none_right_eq_some]
  apply and_congr_right
  intro _
  dsimp only
  cases earliest (dated (p.appearancesAs .witness)) with
  | none => simp
  | some w =>
      cases earliest (dated (p.appearancesAs .accused)) with
      | none => simp
      | some a => simp [eq_comm]

/-- A row reports what its person did first in both roles. -/
theorem reports_of_ofPerson {p : Person} {t : Transition} (h : ofPerson p = some t) :
    t.Reports p := by
  obtain ⟨-, w, a, hw, ha, rfl⟩ := ofPerson_eq_some_iff.mp h
  exact ⟨rfl, rfl, beginsAs_of_earliest hw, beginsAs_of_earliest ha, length_dated p .witness, rfl⟩

theorem yearsBetween_of_ofPerson {p : Person} {t : Transition} (h : ofPerson p = some t) :
    t.yearsBetween = yearSpan t.witnessYear t.accusedYear := by
  obtain ⟨-, w, a, -, -, rfl⟩ := ofPerson_eq_some_iff.mp h
  rfl

/-- A person has a row exactly if they cross over. -/
theorem isSome_ofPerson_iff {p : Person} : (ofPerson p).isSome = true ↔ p.Crosses := by
  rw [Option.isSome_iff_exists, Person.Crosses, ← exists_earliest_iff, ← exists_earliest_iff]
  simp only [ofPerson_eq_some_iff]
  constructor
  · rintro ⟨t, hflag, w, a, hw, ha, -⟩
    exact ⟨hflag, ⟨w, hw⟩, a, ha⟩
  · rintro ⟨hflag, ⟨w, hw⟩, a, ha⟩
    exact ⟨_, hflag, w, a, hw, ha, rfl⟩

/-- Every person who crosses has one transition, in the order of the persons, and nobody else has
any. -/
theorem reports_ofPersons (persons : List Person) :
    List.Forall₂ Reports (ofPersons persons) (persons.filter fun p => p.Crosses) := by
  induction persons with
  | nil => exact .nil
  | cons p rest ih =>
      have hcrosses : p.Crosses ↔ (ofPerson p).isSome = true := isSome_ofPerson_iff.symm
      cases hp : ofPerson p with
      | none =>
          rw [ofPersons, List.filterMap_cons_none hp,
            List.filter_cons_of_neg (by simp [hcrosses, hp])]
          exact ih
      | some t =>
          rw [ofPersons, List.filterMap_cons_some hp,
            List.filter_cons_of_pos (by simp [hcrosses, hp])]
          exact .cons (reports_of_ofPerson hp) ih

end Transition

end Prosopography
