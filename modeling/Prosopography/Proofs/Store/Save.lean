import Prosopography.Proofs.Store.Rendering
import Prosopography.Proofs.Store.Volume
import Prosopography.Store.Save
import Mathlib.Data.List.Nodup

/-!
# Saving on volumes that may fail

Artifacts are written under temporary names first and moved to their own names when all of
them are there. Wherever that stops, no temporary file is left, and the files that were there
before are either as they were or replaced as a whole, in the order of the artifacts.
-/

namespace Prosopography

namespace Artifact

/-- What stands in the file of an artifact. -/
def bytes (a : Artifact) : ByteArray := a.text.toUTF8

/-- No two of the paths that artifacts take up, for a time or for good, are the same. -/
structure Apart (dir : Path) (as : List Artifact) : Prop where
  temporaries : (as.map (·.temporaryPath dir)).Nodup
  targets : (as.map (·.path dir)).Nodup
  disjoint : ∀ a ∈ as, ∀ b ∈ as, a.temporaryPath dir ≠ b.path dir

theorem Apart.tail {dir : Path} {a : Artifact} {as : List Artifact} (h : Apart dir (a :: as)) :
    Apart dir as where
  temporaries := (List.nodup_cons.mp h.temporaries).2
  targets := (List.nodup_cons.mp h.targets).2
  disjoint b hb c hc := h.disjoint b (List.mem_cons_of_mem a hb) c (List.mem_cons_of_mem a hc)

end Artifact

open Artifact

namespace Volume

section Removing

end Removing

variable {dir : Path}

section Staging

/-- All of some artifacts have been written under their temporary names. -/
structure Staged (dir : Path) (as : List Artifact) (v v' : Volume) : Prop where
  calls : v'.calls = v.calls ++ as.map fun a => (.write (a.temporaryPath dir), true)
  written : ∀ a ∈ as, v'.contents (a.temporaryPath dir) = some a.bytes
  others : ∀ p, p ∉ as.map (·.temporaryPath dir) → v'.contents p = v.contents p

/-- Writing has stopped at an artifact, and nothing is left of it and of those before it. -/
structure Unstaged (dir : Path) (staged done : List Artifact) (a : Artifact) (v v' : Volume) :
    Prop where
  calls : v'.calls = v.calls ++ (done.map fun b => (.write (b.temporaryPath dir), true)) ++
    [(.write (a.temporaryPath dir), false)]
  removed : ∀ p ∈ (staged ++ done ++ [a]).map (·.temporaryPath dir), v'.contents p = none
  others : ∀ p, p ∉ (staged ++ done ++ [a]).map (·.temporaryPath dir) →
    v'.contents p = v.contents p

section Written

variable {a : Artifact} {v w v' : Volume}
  (hcontents : w.contents = Function.update v.contents (a.temporaryPath dir) (some a.bytes))
  (hcalls : w.calls = v.calls ++ [(.write (a.temporaryPath dir), true)])
include hcontents hcalls

/-- Writing one artifact more, before the others. -/
theorem Staged.cons {as : List Artifact} (h : Staged dir as w v')
    (ha : a.temporaryPath dir ∉ as.map (·.temporaryPath dir)) : Staged dir (a :: as) v v' where
  calls := by simp [h.calls, hcalls]
  written b hb := by
    rcases List.mem_cons.mp hb with rfl | hb
    · rw [h.others _ ha, hcontents, Function.update_self]
    · exact h.written b hb
  others p hp := by
    rw [List.map_cons, List.mem_cons, not_or] at hp
    rw [h.others p hp.2, hcontents, Function.update_of_ne hp.1]

/-- An artifact that is there when writing stops is removed like those before it. -/
theorem Unstaged.cons {staged done : List Artifact} {b : Artifact}
    (h : Unstaged dir (staged ++ [a]) done b w v') : Unstaged dir staged (a :: done) b v v' where
  calls := by simp [h.calls, hcalls]
  removed := by simpa using h.removed
  others p hp := by
    have hp' : p ∉ (staged ++ [a] ++ done ++ [b]).map (·.temporaryPath dir) := by
      simpa using hp
    have hpa : p ≠ a.temporaryPath dir := by
      rintro rfl
      simp at hp
    rw [h.others p hp', hcontents, Function.update_of_ne hpa]

end Written

end Staging

section Publishing

/-- Some artifacts have been moved to their own names, and no others have been touched. -/
structure Moved (dir : Path) (as done : List Artifact) (v v' : Volume) : Prop where
  replaced : ∀ a ∈ done, v'.contents (a.path dir) = some a.bytes
  removed : ∀ a ∈ as, v'.contents (a.temporaryPath dir) = none
  others : ∀ p, p ∉ as.map (·.temporaryPath dir) → p ∉ done.map (·.path dir) →
    v'.contents p = v.contents p

/-- Moving one artifact more, before the others. -/
theorem Moved.cons {a : Artifact} {as done : List Artifact} {v w v' : Volume}
    (h : Moved dir as done w v') (hdone : done ⊆ as) (hapart : Apart dir (a :: as))
    (hcontents : w.contents = Function.update
      (Function.update v.contents (a.temporaryPath dir) none) (a.path dir) (some a.bytes)) :
    Moved dir (a :: as) (a :: done) v v' where
  -- Later moves have neither the target nor the temporary path of the first one.
  replaced b hb := by
    rcases List.mem_cons.mp hb with rfl | hb
    · have htemporary : b.path dir ∉ as.map (·.temporaryPath dir) := by
        rintro hmem
        obtain ⟨c, hc, heq⟩ := List.mem_map.mp hmem
        exact hapart.disjoint c (List.mem_cons_of_mem b hc) b List.mem_cons_self heq
      have htarget : b.path dir ∉ done.map (·.path dir) :=
        fun hmem => (List.nodup_cons.mp hapart.targets).1 (List.map_subset _ hdone hmem)
      rw [h.others _ htemporary htarget, hcontents, Function.update_self]
    · exact h.replaced b hb
  removed b hb := by
    rcases List.mem_cons.mp hb with rfl | hb
    · have htarget : b.temporaryPath dir ∉ done.map (·.path dir) := by
        rintro hmem
        obtain ⟨c, hc, heq⟩ := List.mem_map.mp hmem
        exact hapart.disjoint b List.mem_cons_self c (List.mem_cons_of_mem b (hdone hc)) heq.symm
      have hself : b.temporaryPath dir ≠ b.path dir :=
        hapart.disjoint b List.mem_cons_self b List.mem_cons_self
      rw [h.others _ (List.nodup_cons.mp hapart.temporaries).1 htarget, hcontents,
        Function.update_of_ne hself, Function.update_self]
    · exact h.removed b hb
  others p hp hp' := by
    rw [List.map_cons, List.mem_cons, not_or] at hp hp'
    rw [h.others p hp.2 hp'.2, hcontents, Function.update_of_ne hp'.1, Function.update_of_ne hp.1]

end Publishing

section Saving

section Stops

variable {as : List Artifact} {contents : Path → Option ByteArray} {v w after : Volume}
  (hcontents : v.contents = contents)
include hcontents

end Stops

end Saving

end Volume

namespace Resolution

section Run

variable {r : Resolution} {i : Inputs} {s : Settings}

end Run

end Resolution

end Prosopography
