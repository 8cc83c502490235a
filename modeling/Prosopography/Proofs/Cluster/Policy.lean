import Prosopography.Cluster.Policy

/-!
# What the policy asks of names and places

The conditions under which two keys may belong to one person, one by one.
-/

namespace Prosopography.MergePolicy

variable (p : MergePolicy)

/-- Two keys that may belong to one person: no score is below its threshold. -/
structure SimilarKeys (a b : String) : Prop where
  differ : a ≠ b
  longLeft : p.minKeyLength ≤ a.length
  longRight : p.minKeyLength ≤ b.length
  wordsSimilar :
    ¬ Similarity.toFloat (Similarity.wordSetRatio a.toList b.toList) < p.mergeThreshold
  namedLeft : Name.givenName a.toList ≠ []
  namedRight : Name.givenName b.toList ≠ []
  givenNamesSimilar :
    ¬ Similarity.toFloat (Similarity.ratio (Name.givenName a.toList) (Name.givenName b.toList)) <
      p.givenNameThreshold

variable {p} {a b : String}

/-- Given names agree if both are there and no less alike than the threshold asks. -/
theorem givenNamesAgree_iff {x y : List Char} :
    p.givenNamesAgree x y = true ↔
      Name.givenName x ≠ [] ∧ Name.givenName y ≠ [] ∧
        ¬ Similarity.toFloat (Similarity.ratio (Name.givenName x) (Name.givenName y)) <
          p.givenNameThreshold := by
  simp [givenNamesAgree, and_assoc]

/-- The policy scores similar keys and no others. -/
theorem isSome_nameScore?_iff : (p.nameScore? a b).isSome = true ↔ p.SimilarKeys a b := by
  rw [nameScore?]
  constructor
  · intro h
    split at h
    · simp at h
    · rename_i hkeys
      obtain ⟨hdiffer, hlong⟩ := not_or.mp hkeys
      obtain ⟨hleft, hright⟩ := not_or.mp hlong
      dsimp only at h
      split at h
      · simp at h
      · rename_i hwords
        split at h
        · rename_i hgiven
          obtain ⟨hx, hy, hratio⟩ := givenNamesAgree_iff.mp hgiven
          exact ⟨hdiffer, by simpa [longEnough] using hleft, by simpa [longEnough] using hright,
            hwords, hx, hy, hratio⟩
        · simp at h
  · intro h
    have hkeys : ¬ (a = b ∨ (!p.longEnough a) = true ∨ (!p.longEnough b) = true) := by
      simp [longEnough, h.differ, h.longLeft, h.longRight]
    have hgiven := givenNamesAgree_iff.mpr ⟨h.namedLeft, h.namedRight, h.givenNamesSimilar⟩
    rw [if_neg hkeys]
    simp [h.wordsSimilar, hgiven]

/-- The score of a pair of keys is that of their sets of words. -/
theorem eq_of_nameScore?_eq_some {score : Float} (h : p.nameScore? a b = some score) :
    Similarity.toFloat (Similarity.wordSetRatio a.toList b.toList) = score := by
  rw [nameScore?] at h
  split at h
  · cases h
  · dsimp only at h
    split at h
    · cases h
    · split at h
      · exact Option.some.inj h
      · cases h

/-- Similar keys are scored by their words. -/
theorem nameScore?_eq_some_iff {score : Float} :
    p.nameScore? a b = some score ↔
      p.SimilarKeys a b ∧
        Similarity.toFloat (Similarity.wordSetRatio a.toList b.toList) = score := by
  constructor
  · intro h
    exact ⟨isSome_nameScore?_iff.mp (by rw [h, Option.isSome_some]), eq_of_nameScore?_eq_some h⟩
  · rintro ⟨hsimilar, rfl⟩
    obtain ⟨score, hscore⟩ := Option.isSome_iff_exists.mp (isSome_nameScore?_iff.mpr hsimilar)
    rw [hscore, eq_of_nameScore?_eq_some hscore]

/-- Clusters are accepted for their names and their places, and for nothing else. -/
theorem isSome_accepts?_iff {c d : Cluster} :
    (p.accepts? c d).isSome = true ↔ p.SimilarKeys c.key d.key ∧ c.compatible d = true := by
  rw [← isSome_nameScore?_iff, accepts?]
  cases p.nameScore? c.key d.key with
  | none => simp
  | some score => simp [Option.filter]

end Prosopography.MergePolicy
