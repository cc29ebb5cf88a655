/-
  AddressWatch.Proofs.Toml.Lines

  Settings texts of plain lines: blank lines, comments, headers with one bare key, and assignments
  of one word to one bare key (`Says`). Such a line is read by itself, whatever stands behind its
  line break (`readStatements_of_says`), so a text of plain lines is read line by line
  (`parse?_of_said`).
-/

import Mathlib.Data.List.TakeWhile
import AddressWatch.Toml.Parser

namespace AddressWatch.Toml

/-! ## Plain lines -/

/-- A key that can be written without quotes. -/
def IsBare (key : List Char) : Prop := key ≠ [] ∧ ∀ c ∈ key, isBareChar c = true

theorem IsBare.exists_cons {key : List Char} (hkey : IsBare key) :
    ∃ b bs, key = b :: bs ∧ isBareChar b = true := by
  obtain ⟨b, bs, rfl⟩ := List.exists_cons_of_ne_nil hkey.1
  exact ⟨b, bs, rfl, hkey.2 b List.mem_cons_self⟩

/-- What a plain line says. -/
inductive Says : List Char → List Statement → Prop where
  | blank : Says [] []
  | comment {text : List Char} (htext : ∀ c ∈ text, isTextChar c = true) : Says ('#' :: text) []
  | header {key : List Char} (hkey : IsBare key) : Says ('[' :: key ++ [']']) [.header [key]]
  | assignment {key word : List Char} {value : Toml} (hkey : IsBare key)
      (hword : ∀ c ∈ word, isWordChar c = true) (hvalue : scalar? word = some value) :
      Says (key ++ ' ' :: '=' :: ' ' :: word) [.assignment [key] value]

/-- What a line says, if it is plain. -/
def said? (line : List Char) : Option (List Statement) :=
  match line with
  | [] => some []
  | '#' :: text => if text.all isTextChar then some [] else none
  | '[' :: rest =>
    let key := rest.takeWhile isBareChar
    if !key.isEmpty && rest.dropWhile isBareChar == [']'] then some [.header [key]] else none
  | line =>
    let key := line.takeWhile isBareChar
    match line.dropWhile isBareChar with
    | ' ' :: '=' :: ' ' :: word =>
      if !key.isEmpty && word.all isWordChar then
        (scalar? word).map fun value => [.assignment [key] value]
      else none
    | _ => none

/-- What plain lines say, if all are. -/
def linesSaid? : List (List Char) → Option (List Statement)
  | [] => some []
  | line :: rest =>
    match said? line, linesSaid? rest with
    | some first, some more => some (first ++ more)
    | _, _ => none

theorem isBare_takeWhile {cs : List Char} (hcs : (cs.takeWhile isBareChar).isEmpty = false) :
    IsBare (cs.takeWhile isBareChar) :=
  ⟨List.isEmpty_eq_false_iff.mp hcs, fun _ => List.mem_takeWhile_imp⟩

theorem says_of_said? {line : List Char} {statements : List Statement}
    (hline : said? line = some statements) : Says line statements := by
  rw [said?.eq_def] at hline
  split at hline
  · cases hline
    exact .blank
  · next text =>
      split at hline
      · next htext =>
          cases hline
          exact .comment (List.all_eq_true.mp htext)
      · cases hline
  · next rest =>
      simp only at hline
      split at hline
      · next hparts =>
          cases hline
          rw [Bool.and_eq_true, Bool.not_eq_true', beq_iff_eq] at hparts
          obtain ⟨hkey, hend⟩ := hparts
          have hheader := Says.header (isBare_takeWhile hkey)
          rwa [← hend, List.cons_append, List.takeWhile_append_dropWhile] at hheader
      · cases hline
  · simp only at hline
    split at hline
    · next word hafter =>
        split at hline
        · next hparts =>
            rw [Bool.and_eq_true, Bool.not_eq_true'] at hparts
            obtain ⟨hkey, hword⟩ := hparts
            obtain ⟨value, hvalue, rfl⟩ := Option.map_eq_some_iff.mp hline
            have hassignment :=
              Says.assignment (isBare_takeWhile hkey) (List.all_eq_true.mp hword) hvalue
            rwa [← hafter, List.takeWhile_append_dropWhile] at hassignment
        · cases hline
    · cases hline

/-! ## Characters -/

/-- A character of a kind is no character that is not of this kind. -/
theorem ne_of_kind {kind : Char → Bool} {c d : Char} (hc : kind c = true) (hd : kind d = false) :
    c ≠ d := by
  rintro rfl
  rw [hc] at hd
  cases hd

theorem not_isBlank_of_ne {c : Char} (hspace : c ≠ ' ') (htab : c ≠ '\t') : isBlank c = false := by
  rw [isBlank, Bool.or_eq_false_iff, beq_eq_false_iff_ne, beq_eq_false_iff_ne]
  exact ⟨hspace, htab⟩

/-! ## Ends of lines -/

theorem skipBlanks_of_not_blank {c : Char} (hc : isBlank c = false) (cs : List Char) :
    skipBlanks (c :: cs) = c :: cs :=
  List.dropWhile_cons_of_neg (by rw [hc]; decide)

theorem endLine?_break (rest : List Char) : endLine? ('\n' :: rest) = some rest := rfl

theorem endLine?_comment {text : List Char} (htext : ∀ c ∈ text, isTextChar c = true)
    (rest : List Char) : endLine? ('#' :: (text ++ '\n' :: rest)) = some rest := by
  have hafter : (text ++ '\n' :: rest).dropWhile isTextChar = '\n' :: rest := by
    rw [List.dropWhile_append_of_pos htext]
    rfl
  rw [endLine?, skipBlanks_of_not_blank (by decide)]
  simp only
  rw [hafter]
  rfl

/-- A line that begins with another character does not end there. -/
theorem endLine?_of_other {c : Char} (hblank : isBlank c = false) (hcomment : c ≠ '#')
    (hfeed : c ≠ '\n') (hreturn : c ≠ '\r') (cs : List Char) : endLine? (c :: cs) = none := by
  rw [endLine?, skipBlanks_of_not_blank hblank]
  simp [hcomment, lineBreak?, hfeed, hreturn]

/-! ## Keys -/

theorem not_isBlank_of_isBareChar {c : Char} (hc : isBareChar c = true) : isBlank c = false :=
  not_isBlank_of_ne (ne_of_kind hc (by decide)) (ne_of_kind hc (by decide))

/-- A line that begins with a bare key does not end there. -/
theorem endLine?_of_isBareChar {c : Char} (hc : isBareChar c = true) (cs : List Char) :
    endLine? (c :: cs) = none :=
  endLine?_of_other (not_isBlank_of_isBareChar hc) (ne_of_kind hc (by decide))
    (ne_of_kind hc (by decide)) (ne_of_kind hc (by decide)) cs

/-- A bare key is read up to a character that cannot stand in it. -/
theorem readKey_bare {key : List Char} (hkey : IsBare key) {d : Char} (hd : isBareChar d = false)
    (rest : List Char) : readKey (key ++ d :: rest) = some (key, d :: rest) := by
  have hspan : (key ++ d :: rest).takeWhile isBareChar = key := by
    rw [List.takeWhile_append_of_pos hkey.2, List.takeWhile_cons_of_neg (by rw [hd]; decide),
      List.append_nil]
  obtain ⟨b, bs, rfl, hb⟩ := hkey.exists_cons
  rw [List.cons_append] at hspan ⊢
  rw [readKey, hspan]
  · simp
  · rintro _ ⟨⟩
    exact ne_of_kind hb (d := '"') (by decide) rfl
  · rintro _ ⟨⟩
    exact ne_of_kind hb (d := '\'') (by decide) rfl

/-- A single bare key is a path, whatever blanks stand behind it. -/
theorem readPath_bare {key : List Char} (hkey : IsBare key) {c d : Char} {after more : List Char}
    (hc : isBareChar c = false) (hafter : skipBlanks (c :: after) = d :: more) (hd : d ≠ '.') :
    readPath (key ++ c :: after) = some ([key], d :: more) := by
  have hread := readKey_bare hkey hc after
  obtain ⟨b, bs, rfl, hb⟩ := hkey.exists_cons
  rw [List.cons_append] at hread ⊢
  rw [readPath, readKeys, skipBlanks_of_not_blank (not_isBlank_of_isBareChar hb), hread]
  simp only [Option.bind_eq_bind, Option.bind_some, hafter]
  -- Behind the key, only a dot would go on with the path.
  split
  · next heq =>
      cases heq
      exact absurd rfl hd
  · rfl

/-! ## Words -/

theorem readWord_of_word {word : List Char} (hword : ∀ c ∈ word, isWordChar c = true)
    (rest : List Char) : readWord (word ++ '\n' :: rest) = (word, '\n' :: rest) := by
  have hspan : (word ++ '\n' :: rest).takeWhile isWordChar = word := by
    rw [List.takeWhile_append_of_pos hword, List.takeWhile_cons_of_neg (by decide),
      List.append_nil]
  rw [readWord, hspan]
  simp

theorem readString?_of_other {c : Char} (hdouble : c ≠ '"') (hsingle : c ≠ '\'')
    (cs : List Char) : readString? (c :: cs) = none := by
  rw [readString?.eq_def]
  split
  · next heq =>
      cases heq
      exact absurd rfl hdouble
  · next heq =>
      cases heq
      exact absurd rfl hsingle
  · next heq =>
      cases heq
      exact absurd rfl hdouble
  · next heq =>
      cases heq
      exact absurd rfl hsingle
  · rfl

/-- The first character up to the break behind a word, which is the break where there is no word,
begins no other kind of value and is no blank. -/
theorem exists_cons_of_word {word : List Char} (hword : ∀ c ∈ word, isWordChar c = true)
    (rest : List Char) :
    ∃ c cs, word ++ '\n' :: rest = c :: cs ∧
      (c ≠ '"' ∧ c ≠ '\'' ∧ c ≠ '[' ∧ c ≠ '\x7b') ∧ isBlank c = false := by
  cases word with
  | nil => exact ⟨'\n', rest, rfl, by decide, by decide⟩
  | cons c cs =>
      have hc := hword c List.mem_cons_self
      refine ⟨c, cs ++ '\n' :: rest, rfl, ⟨?_, ?_, ?_, ?_⟩, not_isBlank_of_ne ?_ ?_⟩
      all_goals exact ne_of_kind hc (by decide)

theorem skipBlanks_word {word : List Char} (hword : ∀ c ∈ word, isWordChar c = true)
    (rest : List Char) : skipBlanks (' ' :: (word ++ '\n' :: rest)) = word ++ '\n' :: rest := by
  obtain ⟨c, cs, hcs, -, hblank⟩ := exists_cons_of_word hword rest
  rw [hcs]
  exact skipBlanks_of_not_blank hblank cs

/-- A word is read as the value that it stands for, up to the break behind it. -/
theorem readValue_of_word {word : List Char} {value : Toml}
    (hword : ∀ c ∈ word, isWordChar c = true) (hvalue : scalar? word = some value)
    (fuel depth : Nat) (rest : List Char) :
    readValue (fuel + 1) depth (word ++ '\n' :: rest) = some (value, '\n' :: rest) := by
  have hread := readWord_of_word hword rest
  obtain ⟨c, cs, hcs, ⟨hdouble, hsingle, hbracket, hbrace⟩, -⟩ := exists_cons_of_word hword rest
  rw [hcs] at hread ⊢
  rw [readValue, readString?_of_other hdouble hsingle]
  · simp only
    rw [hread]
    simp only [hvalue, Option.map_some]
  · rintro _ ⟨⟩
    exact hbracket rfl
  · rintro _ ⟨⟩
    exact hbrace rfl

/-! ## Statements -/

section Statements

variable {key : List Char} (hkey : IsBare key)
include hkey

theorem readStatement_header (rest : List Char) :
    readStatement ('[' :: (key ++ ']' :: rest)) = some (.header [key], rest) := by
  have hpath : readPath (key ++ ']' :: rest) = some ([key], ']' :: rest) :=
    readPath_bare hkey (by decide) (skipBlanks_of_not_blank (by decide) rest) (by decide)
  obtain ⟨b, bs, rfl, hb⟩ := hkey.exists_cons
  rw [readStatement]
  rw [List.cons_append] at hpath ⊢
  rw [readHeader, hpath]
  · rfl
  · -- A second bracket would begin a header of another kind.
    rintro _ ⟨⟩
    exact ne_of_kind hb (d := '[') (by decide) rfl

theorem readStatement_assignment {word : List Char} {value : Toml}
    (hword : ∀ c ∈ word, isWordChar c = true) (hvalue : scalar? word = some value)
    (rest : List Char) :
    readStatement (key ++ ' ' :: '=' :: ' ' :: (word ++ '\n' :: rest)) =
      some (.assignment [key] value, '\n' :: rest) := by
  have hpath : readPath (key ++ ' ' :: '=' :: ' ' :: (word ++ '\n' :: rest)) =
      some ([key], '=' :: ' ' :: (word ++ '\n' :: rest)) :=
    readPath_bare hkey (by decide) rfl (by decide)
  obtain ⟨b, bs, rfl, hb⟩ := hkey.exists_cons
  rw [List.cons_append] at hpath ⊢
  rw [readStatement, readAssignment, hpath]
  · simp only
    rw [skipBlanks_word hword, readValue_of_word hword hvalue, Option.map_some]
  · rintro _ ⟨⟩
    exact ne_of_kind hb (d := '[') (by decide) rfl

end Statements

/-! ## Texts -/

/-- A statement takes its line. -/
theorem readStatements_of_statement {c : Char} {cs rest : List Char} {statement : Statement}
    (hblank : isBlank c = false) (hend : endLine? (c :: cs) = none)
    (hread : readStatement (c :: cs) = some (statement, '\n' :: rest)) (fuel : Nat) :
    readStatements (fuel + 1) (c :: cs) = (readStatements fuel rest).map (statement :: ·) := by
  rw [readStatements, skipBlanks_of_not_blank hblank, hend, hread]
  simp only [Option.bind_eq_bind, Option.bind_some, endLine?_break]
  cases readStatements fuel rest <;> rfl

/-- So does a line that says nothing. -/
theorem readStatements_of_endLine {c : Char} {cs rest : List Char}
    (hend : endLine? (c :: cs) = some rest) (fuel : Nat) :
    readStatements (fuel + 1) (c :: cs) = readStatements fuel rest := by
  rw [readStatements, hend]
  rfl

/-- A plain line is read by itself, whatever stands behind its break. -/
theorem readStatements_of_says {line : List Char} {statements : List Statement}
    (hline : Says line statements) (fuel : Nat) (rest : List Char) :
    readStatements (fuel + 1) (line ++ '\n' :: rest) =
      (readStatements fuel rest).map (statements ++ ·) := by
  cases hline with
  | blank =>
      rw [List.nil_append, readStatements_of_endLine (endLine?_break rest)]
      simp
  | @comment text htext =>
      rw [List.cons_append, readStatements_of_endLine (endLine?_comment htext rest)]
      simp
  | @header key hkey =>
      have hread := readStatement_header hkey ('\n' :: rest)
      rw [List.append_assoc, List.cons_append, List.singleton_append]
      refine readStatements_of_statement (by decide) ?_ hread fuel
      exact endLine?_of_other (by decide) (by decide) (by decide) (by decide) _
  | @assignment key word value hkey hword hvalue =>
      have hread := readStatement_assignment hkey hword hvalue rest
      obtain ⟨b, bs, rfl, hb⟩ := hkey.exists_cons
      rw [List.append_assoc, List.cons_append, List.cons_append, List.cons_append]
      exact readStatements_of_statement (not_isBlank_of_isBareChar hb) (endLine?_of_isBareChar hb _)
        hread fuel

/-- The text of lines. -/
def joined (lines : List (List Char)) : List Char := lines.flatMap (· ++ ['\n'])

theorem joined_cons (line : List Char) (lines : List (List Char)) :
    joined (line :: lines) = line ++ '\n' :: joined lines := by
  rw [joined, List.flatMap_cons, List.append_assoc]
  rfl

theorem length_le_joined (lines : List (List Char)) : lines.length ≤ (joined lines).length := by
  induction lines with
  | nil => exact Nat.zero_le _
  | cons line lines ih =>
      rw [joined_cons, List.length_append, List.length_cons, List.length_cons]
      omega

/-- Plain lines are read one after the other. -/
theorem readStatements_of_said {lines : List (List Char)} {statements : List Statement}
    (hlines : linesSaid? lines = some statements) {fuel : Nat} (hfuel : lines.length ≤ fuel) :
    readStatements fuel (joined lines) = some statements := by
  -- Every line takes one of the fuel, which bounds no more than their number.
  induction lines generalizing fuel statements with
  | nil =>
      cases hlines
      cases fuel <;> rfl
  | cons line lines ih =>
      rw [linesSaid?] at hlines
      split at hlines
      · next first more hfirst hmore =>
          cases hlines
          cases fuel with
          | zero => cases hfuel
          | succ fuel =>
              rw [List.length_cons] at hfuel
              rw [joined_cons, readStatements_of_says (says_of_said? hfirst),
                ih hmore (Nat.le_of_succ_le_succ hfuel), Option.map_some]
      · cases hlines

/-- No plain line begins with a byte order mark. -/
theorem dropByteOrderMark_of_says {line : List Char} {statements : List Statement}
    (hline : Says line statements) (rest : List Char) :
    dropByteOrderMark (line ++ '\n' :: rest) = line ++ '\n' :: rest := by
  cases hline with
  | blank => rfl
  | comment => rfl
  | header => rfl
  | @assignment key word value hkey =>
      obtain ⟨b, bs, rfl, hb⟩ := hkey.exists_cons
      refine if_neg fun hmark => ne_of_kind hb (d := Char.ofNat 0xFEFF) (by decide) ?_
      rw [← hmark, Char.ofNat_toNat]

/-- The table of plain lines is the table of what they say. -/
theorem parse?_of_said {lines : List (List Char)} {statements : List Statement}
    (hlines : linesSaid? lines = some statements) :
    parse? (joined lines) = ofStatements? statements := by
  have hmark : dropByteOrderMark (joined lines) = joined lines := by
    cases lines with
    | nil => rfl
    | cons line lines =>
        rw [linesSaid?] at hlines
        split at hlines
        · next hfirst _ =>
            rw [joined_cons]
            exact dropByteOrderMark_of_says (says_of_said? hfirst) _
        · cases hlines
  rw [parse?, hmark, readStatements_of_said hlines (length_le_joined lines), Option.bind_some]

end AddressWatch.Toml
