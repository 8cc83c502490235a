import Prosopography.Proofs.Name.NormalForm
import Prosopography.Proofs.Pattern.Squeezing

/-!
# Names in other spacing

Names on one line that differ in spacing and case only have one key. No clause tells one blank
from another or several from one: it asks for some blanks or allows any, a match inside a text
takes all blanks before it or none, and a match that takes the rest of its line takes the blanks
in it. So what is left of two such names once a clause is struck differs in spacing only, and the
spacing goes in the same pass.
-/

namespace Prosopography

open Text Cursor

namespace Name.Clause

open Pattern

theorem solid_wordEdge : wordEdge.Solid := solid_edge lacksBlanks_isWordChar

theorem advancing_anyBlanks : anyBlanks.Carries Advancing Advancing :=
  advancing_many fun _ hx _ => hx

theorem advancing_restOfLine : restOfLine.Carries Advancing Advancing :=
  advancing_many holdsBlanks_line

theorem solid_placeWord : placeWord.Solid :=
  solid_some1 (lacksBlanks_isLetter.or (lacksBlanks_beq (by decide)))

theorem solid_someDigits : someDigits.Solid := solid_some1 lacksBlanks_isDigit

theorem solid_either {a b : Char} (ha : isBlank a = false) (hb : isBlank b = false) :
    (one fun c => c == a || c == b).Solid :=
  solid_one ((lacksBlanks_beq ha).or (lacksBlanks_beq hb))

/-- `de` or `du` and blanks. -/
theorem blind_particle :
    (alt (text "de") (text "du") ++ someBlanks).Carries Advancing Blind :=
  ((solid_text "de" (by decide)).alt (solid_text "du" (by decide))).append agrees_someBlanks

theorem agrees_commaOrBlanks : commaOrBlanks.Carries Advancing Agrees :=
  have hcomma : (text "," ++ anyBlanks).Carries Advancing Blind :=
    (solid_text "," (by decide)).restrict.append advancing_anyBlanks
  hcomma.agrees.alt_agrees agrees_someBlanks

theorem advancing_commaThenBlanks :
    (optional (text ",") ++ anyBlanks).Carries Advancing Advancing :=
  (advancing_optional (solid_text "," (by decide)).restrict).append advancing_anyBlanks

theorem advancing_archiveMark : archiveMark.Carries Advancing Advancing :=
  (advancing_optional (solid_either (by decide) (by decide)).restrict).append advancing_anyBlanks

theorem carries_backReference : backReference.pattern.Carries Advancing Agrees := by
  have hvowel : (one fun c => c == 'e' || c == 'é').Solid := solid_either (by decide) (by decide)
  have hdu : (wordEdge ++ text "du" ++ someBlanks).Carries Advancing Blind :=
    (solid_wordEdge.append (solid_text "du" (by decide)).agrees).append agrees_someBlanks
  have hall := hdu.append (solid_text "pr" (by decide)).advancing |>.append hvowel.agrees
    |>.append (solid_text "c" (by decide)).agrees |>.append hvowel.agrees
    |>.append (solid_text "dent" (by decide)).agrees |>.append solid_wordEdge.agrees
  exact hall.restrict.agrees

theorem carries_relation : relation.pattern.Carries Advancing Agrees := by
  have helided : (text "d'" ++ anyBlanks).Carries Advancing Blind :=
    (solid_text "d'" (by decide)).restrict.append advancing_anyBlanks
  have hfrench := (solid_words ["femme", "veuve", "fils", "fille"] (by decide)).append
    agrees_someBlanks |>.append (advancing_optional (blind_particle.alt helided))
  have henglish := (solid_words ["wife", "widow", "son", "daughter"] (by decide)).append
    agrees_someBlanks |>.append (solid_text "of" (by decide)).advancing
    |>.append agrees_someBlanks
  exact (solid_wordEdge.append (hfrench.alt henglish).agrees).agrees

theorem carries_place : place.pattern.Carries Advancing Agrees := by
  have hparticle := blind_particle.alt (solid_text "d'" (by decide)).restrict
  exact agrees_commaOrBlanks.append hparticle.advancing |>.append advancing_anyBlanks
    |>.append solid_placeWord.restrict.advancing |>.append advancing_restOfLine

theorem carries_placeOf : placeOf.pattern.Carries Advancing Agrees :=
  agrees_commaOrBlanks.append (solid_text "of" (by decide)).advancing
    |>.append agrees_someBlanks |>.append solid_placeWord.restrict.advancing
    |>.append advancing_restOfLine

theorem carries_age : age.pattern.Carries Advancing Agrees := by
  have hvowel : (one fun c => c == 'é' || c == 'e').Solid := solid_either (by decide) (by decide)
  have hfrench := (solid_text "âg" (by decide)).append hvowel.agrees
    |>.append (agrees_optional (solid_text "e" (by decide)))
  have henglish := (solid_text "age" (by decide)).append
    (agrees_optional (solid_text "d" (by decide)))
  have hfrom : (text "de" ++ someBlanks).Carries Advancing Blind :=
    (solid_text "de" (by decide)).append agrees_someBlanks
  have hall := advancing_commaThenBlanks.append solid_wordEdge.advancing
    |>.append (hfrench.alt henglish).agrees |>.append agrees_someBlanks
    |>.append (advancing_optional hfrom) |>.append solid_someDigits.restrict.advancing
    |>.append advancing_restOfLine
  exact hall.agrees_of_advancing

theorem carries_finalNumber : finalNumber.pattern.Carries Advancing Agrees := by
  have hyears : (optional (text "ans")).Carries Advancing Advancing :=
    advancing_optional (solid_text "ans" (by decide)).restrict
  have hall := advancing_commaThenBlanks.append solid_someDigits.restrict.advancing
    |>.append advancing_anyBlanks |>.append hyears |>.append advancing_anyBlanks
  exact hall.agrees_of_advancing

theorem carries_occupation : occupation.pattern.Carries Advancing Agrees := by
  have htrade := solid_words ["laboureur", "manoeuvrier", "manouvrier"] (by decide)
  have hword := advancing_commaThenBlanks.append solid_wordEdge.advancing
    |>.append htrade.agrees |>.append solid_wordEdge.agrees
  exact (hword.restrict.append advancing_restOfLine).agrees_of_advancing

/-- What follows the shortest run on the line is no blank, so the run ends at no other place. -/
theorem carries_archiveBox : archiveBox.pattern.Carries Advancing Agrees := by
  have hbox := (solid_text "b" (by decide)).append agrees_someBlanks
    |>.append (solid_one lacksBlanks_isDigit).advancing |>.append (agrees_few holdsBlanks_line)
    |>.append (solid_text ";" (by decide))
  exact (hbox.restrict.append advancing_anyBlanks).agrees

theorem carries_archiveCase : archiveCase.pattern.Carries Advancing Agrees := by
  have hcase := (solid_text "case" (by decide)).append agrees_someBlanks
    |>.append solid_someDigits.restrict.advancing
  exact (hcase.append advancing_archiveMark).agrees

theorem carries_archiveWitness : archiveWitness.pattern.Carries Advancing Agrees := by
  have hwitch := (solid_wordEdge.append (solid_text "witch" (by decide)).agrees).append
    agrees_someBlanks |>.append solid_someDigits.restrict.advancing
  exact (hwitch.append advancing_archiveMark).agrees

/-- A clause begins and ends at aligned positions of texts that differ in spacing only. -/
theorem carries_pattern (c : Clause) : c.pattern.Carries Advancing Agrees := by
  cases c with
  | backReference => exact carries_backReference
  | relation => exact carries_relation
  | place => exact carries_place
  | placeOf => exact carries_placeOf
  | age => exact carries_age
  | finalNumber => exact carries_finalNumber
  | occupation => exact carries_occupation
  | archiveBox => exact carries_archiveBox
  | archiveCase => exact carries_archiveCase
  | archiveWitness => exact carries_archiveWitness

theorem retreats_commaOrBlanks : commaOrBlanks.Retreats :=
  (solid_text "," (by decide)).retreats.append.alt retreats_someBlanks

theorem retreats_commaThenBlanks : (optional (text ",") ++ anyBlanks).Retreats :=
  retreats_optional_append (solid_text "," (by decide)) retreats_anyBlanks

/-- A clause that may be struck inside a text takes all blanks before it, or none at all. -/
theorem retreats_pattern {c : Clause} (h : c.site ≠ .atStart) : c.pattern.Retreats := by
  -- The first part of a pattern decides, whatever follows it.
  cases c with
  | backReference | relation | archiveWitness =>
      repeat first | exact solid_wordEdge.retreats | apply Retreats.append
  | place | placeOf => repeat first | exact retreats_commaOrBlanks | apply Retreats.append
  | age | finalNumber | occupation =>
      repeat first | exact retreats_commaThenBlanks | apply Retreats.append
  | archiveBox | archiveCase => exact absurd rfl h

/-- Striking a clause keeps texts alike that only differ in their blanks. -/
theorem aligned_strike (c : Clause) {s t : List Char} (h : Aligned (.ofText s) (.ofText t)) :
    Aligned (.ofText (c.strike s)) (.ofText (c.strike t)) := by
  refine .ofText ?_ (fun hmem => h.line ((c.strike_sublist s).subset hmem))
    fun hmem => h.line' ((c.strike_sublist t).subset hmem)
  rw [strike, strike]
  cases hsite : c.site with
  | anywhere =>
      exact squeeze_removeAll c.consumes_pattern c.carries_pattern
        (retreats_pattern (by simp [hsite])) h
  | atStart => exact squeeze_removeAtStart c.carries_pattern h
  | atEnd =>
      exact squeeze_removeAtEnd c.consumes_pattern c.carries_pattern
        (retreats_pattern (by simp [hsite])) h

theorem aligned_foldl_strike (cs : List Clause) {s t : List Char}
    (h : Aligned (.ofText s) (.ofText t)) :
    Aligned (.ofText (cs.foldl (fun s c => c.strike s) s))
      (.ofText (cs.foldl (fun s c => c.strike s) t)) := by
  induction cs generalizing s t with
  | nil => exact h
  | cons c cs ih => exact ih (c.aligned_strike h)

end Name.Clause

namespace Name

/-- One pass makes equal texts of texts that only differ in their blanks. -/
theorem pass_eq_of_aligned {s t : List Char} (h : Aligned (.ofText s) (.ofText t)) :
    pass s = pass t := by
  rw [pass_eq, pass_eq, struck, struck, (Clause.aligned_foldl_strike Clause.inOrder h).squeeze_eq]

/-- Names on one line that differ in spacing and case only have one key. -/
theorem key_eq_of_squeeze (a b : String) (ha : '\n' ∉ a.toList) (hb : '\n' ∉ b.toList)
    (h : squeeze (lowercase a.toList) = squeeze (lowercase b.toList)) : key a = key b := by
  have haligned : Aligned (.ofText (lowercase a.toList)) (.ofText (lowercase b.toList)) :=
    .ofText h (fun hmem => ha (newline_mem_of_mem_lowercaseAfter hmem))
      fun hmem => hb (newline_mem_of_mem_lowercaseAfter hmem)
  rw [key, key, keyOf, keyOf, pass_eq_of_aligned haligned]

/-- A name with blanks of four kinds and capitals has the key of its plain spelling. -/
theorem key_eq_of_squeeze_petit :
    let a := "CASE \t12,  Jean\u00a0PETIT, \u2003laboureur"
    let b := "case 12, jean petit, laboureur"
    '\n' ∉ a.toList ∧ '\n' ∉ b.toList ∧
      squeeze (lowercase a.toList) = squeeze (lowercase b.toList) ∧ key a = key b := by
  intro a b
  have ha : '\n' ∉ a.toList := by decide +kernel
  have hb : '\n' ∉ b.toList := by decide +kernel
  have hsame : squeeze (lowercase a.toList) = squeeze (lowercase b.toList) := by decide +kernel
  exact ⟨ha, hb, hsame, key_eq_of_squeeze a b ha hb hsame⟩

-- A line feed is no such blank: a reference to a box of the archive ends on its line.
example : key "B 1\n;" = "b" ∧ key "B 1 ;" = "" := by decide +kernel

end Name

end Prosopography
