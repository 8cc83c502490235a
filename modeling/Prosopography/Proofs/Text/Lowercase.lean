import Prosopography.Text.Lowercase

/-!
# Settled lowercase

Every character that lowercase gives is its own lowercase and no capital sigma, so a
text in lowercase stays as it is, whichever of its characters are left out.
-/

namespace Prosopography.Text

/-- A character that lowercase leaves as it is, whatever stands around it. -/
def IsLower (c : Char) : Prop := c ≠ 'Σ' ∧ lowerChar c = [c]

instance : DecidablePred IsLower := fun _ => inferInstanceAs (Decidable (_ ∧ _))

theorem lowercaseAfter_eq_self {before s : List Char} (h : ∀ c ∈ s, IsLower c) :
    lowercaseAfter before s = s := by
  induction s generalizing before with
  | nil => rfl
  | cons c s ih =>
      obtain ⟨hsigma, hlower⟩ := h c List.mem_cons_self
      rw [lowercaseAfter, if_neg hsigma, hlower, ih fun d hd => h d (List.mem_cons_of_mem c hd)]
      rfl

/-- A text in lowercase is its own lowercase. -/
theorem lowercase_eq_self {s : List Char} (h : ∀ c ∈ s, IsLower c) : lowercase s = s :=
  lowercaseAfter_eq_self h

/-- The images of `run` are none of the code points from `low` to `high`. -/
def CaseRun.isBeside (run : CaseRun) (low high : Nat) : Bool :=
  decide (high < run.first + run.shift) || decide (run.last + run.shift < low)

/-- The images of `run` are no code points of `other`: they lie beside it or between its steps. -/
def CaseRun.avoids (run other : CaseRun) : Bool :=
  run.isBeside other.first other.last ||
    decide ((run.first = run.last ∨ run.step % other.step = 0) ∧
      (run.first + run.shift - other.first) % other.step ≠ 0)

theorem CaseRun.exists_of_lower? {run : CaseRun} {n m : Nat} (h : run.lower? n = some m) :
    run.first ≤ n ∧ n ≤ run.last ∧ run.step ∣ n - run.first ∧ (n + run.shift).toNat = m := by
  rw [lower?] at h
  split at h
  · rename_i hn
    exact ⟨hn.1, hn.2.1, Nat.dvd_of_mod_eq_zero hn.2.2, Option.some.inj h⟩
  · simp at h

theorem CaseRun.not_mem_of_isBeside {run : CaseRun} {low high n m : Nat}
    (hlow : 0 ≤ run.first + run.shift) (h : run.isBeside low high = true)
    (hm : run.lower? n = some m) : ¬ (low ≤ m ∧ m ≤ high) := by
  obtain ⟨hfirst, hlast, -, rfl⟩ := exists_of_lower? hm
  simp only [isBeside, Bool.or_eq_true, decide_eq_true_eq] at h
  omega

theorem CaseRun.lower?_eq_none_of_avoids {run other : CaseRun} {n m : Nat}
    (hlow : 0 ≤ run.first + run.shift) (h : run.avoids other = true)
    (hm : run.lower? n = some m) : other.lower? m = none := by
  refine Option.eq_none_iff_forall_ne_some.mpr fun k hk => ?_
  obtain ⟨hfirst', hlast', hstep', -⟩ := exists_of_lower? hk
  rw [avoids, Bool.or_eq_true, decide_eq_true_eq] at h
  obtain hbeside | ⟨hwhole, hbetween⟩ := h
  · exact not_mem_of_isBeside hlow hbeside hm ⟨hfirst', hlast'⟩
  · obtain ⟨hfirst, hlast, hstep, rfl⟩ := exists_of_lower? hm
    -- Both distances are whole steps, so the first image stands at a whole step as well.
    have hsource : other.step ∣ n - run.first := by
      obtain hsingle | hdvd := hwhole
      · rw [show n - run.first = 0 by omega]
        exact Nat.dvd_zero _
      · exact Nat.dvd_trans (Nat.dvd_of_mod_eq_zero hdvd) hstep
    have himage : (run.first : Int) + run.shift - other.first =
        (((n + run.shift).toNat - other.first : Nat) : Int) - ((n - run.first : Nat) : Int) := by
      omega
    refine hbetween (Int.emod_eq_zero_of_dvd ?_)
    rw [himage]
    exact Int.dvd_sub (Int.natCast_dvd_natCast.mpr hstep') (Int.natCast_dvd_natCast.mpr hsource)

/-- The images of `run` are no code points of any of several runs in increasing order. -/
def CaseRun.avoidsAll (run : CaseRun) : List CaseRun → Bool
  | [] => true
  | other :: others =>
    decide (run.last + run.shift < other.first) || (run.avoids other && run.avoidsAll others)

/-- The lowercase of a run that avoids the others has no lowercase of its own. -/
theorem CaseRun.lowerAmong?_eq_none_of_avoidsAll {run : CaseRun} {others : List CaseRun}
    {n m : Nat} (hlow : 0 ≤ run.first + run.shift) (h : run.avoidsAll others = true)
    (hm : run.lower? n = some m) : lowerAmong? others m = none := by
  induction others with
  | nil => rfl
  | cons other others ih =>
      simp only [avoidsAll, Bool.or_eq_true, Bool.and_eq_true, decide_eq_true_eq] at h
      rw [lowerAmong?]
      split
      · rfl
      · obtain hbefore | ⟨hother, hothers⟩ := h
        · obtain ⟨hfirst, hlast, -, rfl⟩ := exists_of_lower? hm
          omega
        · rw [lower?_eq_none_of_avoids hlow hother hm, ih hothers]
          rfl

theorem exists_of_lowerAmong? {runs : List CaseRun} {n m : Nat} (h : lowerAmong? runs n = some m) :
    ∃ run ∈ runs, run.lower? n = some m := by
  induction runs with
  | nil => simp [lowerAmong?] at h
  | cons run runs ih =>
      rw [lowerAmong?] at h
      split at h
      · simp at h
      · cases hrun : run.lower? n with
        | some k =>
            rw [hrun] at h
            exact ⟨run, List.mem_cons_self, hrun.trans h⟩
        | none =>
            rw [hrun] at h
            obtain ⟨run', hmem, hm⟩ := ih h
            exact ⟨run', List.mem_cons_of_mem run hmem, hm⟩

/-- No run maps to a code point that is mapped again. -/
theorem avoidsAll_lowerRuns : (lowerRuns.all fun run =>
    decide (0 ≤ run.first + run.shift) && run.isBeside 'İ'.toNat 'İ'.toNat &&
      run.avoidsAll lowerRuns) = true := by
  decide +kernel

/-- The code point to which one is mapped is not mapped again. -/
theorem lowerAmong?_of_lowerAmong? {n m : Nat} (h : lowerAmong? lowerRuns n = some m) :
    m ≠ 'İ'.toNat ∧ lowerAmong? lowerRuns m = none := by
  obtain ⟨run, hmem, hrun⟩ := exists_of_lowerAmong? h
  have hall := List.all_eq_true.mp avoidsAll_lowerRuns run hmem
  simp only [Bool.and_eq_true, decide_eq_true_eq] at hall
  obtain ⟨⟨hlow, hdotted⟩, havoids⟩ := hall
  constructor
  · rintro rfl
    exact CaseRun.not_mem_of_isBeside hlow hdotted hrun ⟨Nat.le_refl _, Nat.le_refl _⟩
  · exact CaseRun.lowerAmong?_eq_none_of_avoidsAll hlow havoids hrun

theorem isLower_of_lowerAmong?_eq_none {c : Char} (hdotted : c ≠ 'İ')
    (h : lowerAmong? lowerRuns c.toNat = none) : IsLower c := by
  constructor
  · rintro rfl
    revert h
    decide
  · rw [lowerChar, if_neg hdotted, h]

theorem toNat_ofNat {m : Nat} (h : m.isValidChar) : (Char.ofNat m).toNat = m := by
  rw [Char.ofNat, dif_pos h]
  rfl

theorem isLower_of_mem_lowerChar {c d : Char} (h : d ∈ lowerChar c) : IsLower d := by
  rw [lowerChar] at h
  split at h
  · have hboth : (['i', '\u0307'].all (decide <| IsLower ·)) = true := by decide
    exact of_decide_eq_true (List.all_eq_true.mp hboth d h)
  · rename_i hdotted
    split at h
    · rename_i m hm
      obtain rfl := List.mem_singleton.mp h
      obtain ⟨hne, hnone⟩ := lowerAmong?_of_lowerAmong? hm
      by_cases hvalid : m.isValidChar
      · have htoNat : (Char.ofNat m).toNat = m := toNat_ofNat hvalid
        refine isLower_of_lowerAmong?_eq_none (fun heq => hne ?_) (htoNat.symm ▸ hnone)
        rw [← htoNat, heq]
      · rw [Char.ofNat, dif_neg hvalid]
        decide
    · rename_i hnone
      obtain rfl := List.mem_singleton.mp h
      exact isLower_of_lowerAmong?_eq_none hdotted hnone

theorem isLower_of_mem_lowercaseAfter {before s : List Char} {d : Char}
    (h : d ∈ lowercaseAfter before s) : IsLower d := by
  induction s generalizing before with
  | nil => simp [lowercaseAfter] at h
  | cons c s ih =>
      rw [lowercaseAfter, List.mem_append] at h
      obtain h | h := h
      · split at h
        · obtain rfl := List.mem_singleton.mp h
          split <;> decide
        · exact isLower_of_mem_lowerChar h
      · exact ih h

/-- No character of a lowercase text has another lowercase. -/
theorem isLower_of_mem_lowercase {s : List Char} {d : Char} (h : d ∈ lowercase s) : IsLower d :=
  isLower_of_mem_lowercaseAfter h

theorem isLower_space : IsLower ' ' := by decide

/-- No run maps to the line feed. -/
theorem isBeside_newline_lowerRuns : (lowerRuns.all fun run =>
    decide (0 ≤ run.first + run.shift) && run.isBeside '\n'.toNat '\n'.toNat) = true := by
  decide +kernel

theorem ne_newline_of_lowerAmong? {n m : Nat} (h : lowerAmong? lowerRuns n = some m) :
    m ≠ '\n'.toNat := by
  rintro rfl
  obtain ⟨run, hmem, hrun⟩ := exists_of_lowerAmong? h
  have hall := List.all_eq_true.mp isBeside_newline_lowerRuns run hmem
  simp only [Bool.and_eq_true, decide_eq_true_eq] at hall
  exact CaseRun.not_mem_of_isBeside hall.1 hall.2 hrun ⟨Nat.le_refl _, Nat.le_refl _⟩

/-- Only a line feed has a line feed in its lowercase. -/
theorem eq_newline_of_mem_lowerChar {c : Char} (h : '\n' ∈ lowerChar c) : c = '\n' := by
  rw [lowerChar] at h
  split at h
  · simp at h
  · split at h
    · rename_i m hm
      have hchar := List.mem_singleton.mp h
      by_cases hvalid : m.isValidChar
      · exact absurd (by rw [hchar, toNat_ofNat hvalid]) (ne_newline_of_lowerAmong? hm)
      · have hzero : Char.ofNat m = '\x00' := by
          rw [Char.ofNat, dif_neg hvalid]
          rfl
        exact absurd (hchar.trans hzero) (by decide)
    · exact (List.mem_singleton.mp h).symm

/-- Lowercase puts no line feed in. -/
theorem newline_mem_of_mem_lowercaseAfter {before s : List Char}
    (h : '\n' ∈ lowercaseAfter before s) : '\n' ∈ s := by
  induction s generalizing before with
  | nil => simp [lowercaseAfter] at h
  | cons c s ih =>
      rw [lowercaseAfter, List.mem_append] at h
      obtain h | h := h
      · split at h
        · split at h <;> simp at h
        · exact List.mem_cons.mpr (.inl (eq_newline_of_mem_lowerChar h).symm)
      · exact List.mem_cons_of_mem c (ih h)

end Prosopography.Text
