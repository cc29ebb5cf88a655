/-
  AddressWatch.Proofs.Json.Document

  Documents read back from their compact text (`parse?_chars`), for documents whose numbers are
  integers, with strings of any characters and any nesting. The fuel of the reader never runs out:
  the length of the text bounds it. The text is one line, whatever the strings hold
  (`le_of_mem_chars`).
-/

import Mathlib.Data.List.Basic
import AddressWatch.Json.Parser
import AddressWatch.Proofs.Json.Literal

namespace AddressWatch.Json

open Text

/-! ## Compact texts -/

theorem chars_string (text : String) : (Json.string text).chars = stringChars text := by
  rw [chars]

theorem chars_array (items : List Json) :
    (Json.array items).chars = '[' :: (itemsChars items ++ [']']) := by
  rw [chars, List.cons_append]

theorem chars_object (members : List (String × Json)) :
    (Json.object members).chars = '{' :: (membersChars members ++ ['}']) := by
  rw [chars, List.cons_append]

theorem itemsChars_singleton (j : Json) : itemsChars [j] = j.chars := by rw [itemsChars]

theorem itemsChars_cons_cons (j k : Json) (rest : List Json) :
    itemsChars (j :: k :: rest) = j.chars ++ ',' :: itemsChars (k :: rest) := by
  rw [itemsChars]
  exact fun h => by cases h

theorem membersChars_singleton (key : String) (j : Json) :
    membersChars [(key, j)] = stringChars key ++ ':' :: j.chars := by rw [membersChars]

theorem membersChars_cons_cons (key : String) (j : Json) (m : String × Json)
    (rest : List (String × Json)) :
    membersChars ((key, j) :: m :: rest) =
      stringChars key ++ ':' :: (j.chars ++ ',' :: membersChars (m :: rest)) := by
  rw [membersChars, List.append_assoc, List.cons_append]
  exact fun h => by cases h

/-! ## Documents without fractions -/

/-- The numbers of the document are integers. -/
inductive Integral : Json → Prop
  | null : Integral .null
  | bool (b : Bool) : Integral (.bool b)
  | int (i : Int) : Integral (.int i)
  | string (text : String) : Integral (.string text)
  | array {items : List Json} (hitems : ∀ j ∈ items, Integral j) : Integral (.array items)
  | object {members : List (String × Json)} (hmembers : ∀ m ∈ members, Integral m.2) :
      Integral (.object members)

theorem chars_int (i : Int) : (Json.int i).chars = (signedDecimal i).toList := by rw [int, chars]

/-- The text of an integer starts with its sign or with a digit. -/
theorem exists_signedDecimal_eq_cons (i : Int) :
    ∃ c cs, (signedDecimal i).toList = c :: cs ∧ (c = '-' ∨ isDecimalDigit c = true) := by
  obtain ⟨c, digits, hdigits, hc⟩ := exists_numeral_eq_cons i.natAbs
  rw [toList_signedDecimal, hdigits]
  by_cases hi : i < 0
  · exact ⟨'-', c :: digits, by rw [if_pos hi]; rfl, .inl rfl⟩
  · exact ⟨c, digits, by rw [if_neg hi]; rfl, .inr hc⟩

/-- Where a value starts there is no blank, and no bracket closes. -/
theorem Integral.exists_chars_eq_cons {j : Json} (hj : j.Integral) :
    ∃ c cs, j.chars = c :: cs ∧ isBlank c = false ∧ c ≠ ']' := by
  cases hj with
  | null => exact ⟨'n', _, by rw [chars], by decide, by decide⟩
  | bool b =>
      cases b with
      | true => exact ⟨'t', _, by rw [chars], by decide, by decide⟩
      | false => exact ⟨'f', _, by rw [chars], by decide, by decide⟩
  | int i =>
      obtain ⟨c, cs, htext, hc⟩ := exists_signedDecimal_eq_cons i
      refine ⟨c, cs, by rw [chars_int, htext], ?_⟩
      rcases hc with rfl | hc
      · decide
      · refine ⟨isBlank_of_isDecimalDigit hc, ?_⟩
        rintro rfl
        exact absurd hc (by decide)
  | string text => exact ⟨'"', _, by rw [chars_string, stringChars]; rfl, by decide, by decide⟩
  | array hitems => exact ⟨'[', _, chars_array _, by decide, by decide⟩
  | object hmembers => exact ⟨'{', _, chars_object _, by decide, by decide⟩

/-! ## Reading values -/

/-- The value is read back from its text, wherever it stands and if there is fuel for it. -/
def IsReadBack (j : Json) : Prop :=
  ∀ fuel rest, j.chars.length ≤ fuel → EndsValue rest →
    readValue fuel (j.chars ++ rest) = .ok (j, rest)

theorem readValue_number {c : Char} (fuel : Nat) (cs : List Char)
    (hc : c = '-' ∨ isDecimalDigit c = true) :
    readValue (fuel + 1) (c :: cs) =
      (readNumberText true (c :: cs)).map fun (t, after) =>
        (.number (String.ofList t.chars), after) := by
  have hblank : isBlank c = false := by
    rcases hc with rfl | hc
    · decide
    · exact isBlank_of_isDecimalDigit hc
  have hstart : (c = '-' || isDecimalDigit c) = true := by
    simpa using hc
  rw [readValue, skipBlanks_cons hblank]
  -- None of the other starts of a value is a sign or a digit.
  split
  · rename_i heq
    cases heq
  all_goals
    rename_i heq
    cases heq
  all_goals first
    | exact absurd hstart (by decide)
    | rw [if_pos hstart]

theorem readValue_string (fuel : Nat) (text : String) (rest : List Char) :
    readValue (fuel + 1) (stringChars text ++ rest) = .ok (.string text, rest) := by
  rw [stringChars_append, readValue, skipBlanks_cons (by decide)]
  simp only [readString_flatMap_escapeChar, Except.map, String.ofList_toList]

theorem chars_integerText (i : Int) :
    String.ofList (integerText i).chars = signedDecimal i := by
  rw [← String.ofList_toList (s := signedDecimal i), toList_signedDecimal]
  simp [NumberText.chars, integerText]

theorem isReadBack_int (i : Int) : IsReadBack (.int i) := by
  intro fuel rest hfuel hrest
  obtain ⟨c, cs, htext, hc⟩ := exists_signedDecimal_eq_cons i
  have hread := readNumberText_signedDecimal true i hrest
  rw [chars_int, htext] at hfuel ⊢
  rw [htext, List.cons_append] at hread
  obtain ⟨n, rfl⟩ : ∃ n, fuel = n + 1 := ⟨fuel - 1, by rw [List.length_cons] at hfuel; omega⟩
  rw [List.cons_append, readValue_number n _ hc, hread]
  simp only [Except.map, chars_integerText, int]

/-! ## Reading items and members -/

theorem readItems_of_bracket {fuel : Nat} {cs rest : List Char} {j : Json}
    (hj : readValue fuel cs = .ok (j, ']' :: rest)) :
    readItems (fuel + 1) cs = .ok ([j], rest) := by
  rw [readItems, hj]
  rfl

theorem readItems_of_comma {fuel : Nat} {cs behind rest : List Char} {j : Json}
    {items : List Json} (hj : readValue fuel cs = .ok (j, ',' :: behind))
    (hmore : readItems fuel behind = .ok (items, rest)) :
    readItems (fuel + 1) cs = .ok (j :: items, rest) := by
  have hcomma : skipBlanks (',' :: behind) = ',' :: behind := skipBlanks_cons (by decide) _
  rw [readItems, hj]
  simp only [bind, Except.bind, hcomma, hmore]

/-- A key is read up to the colon behind it. -/
theorem readQuoted_stringChars (key : String) (rest : List Char) :
    readQuoted (skipBlanks (stringChars key ++ rest)) = .ok (key.toList, rest) := by
  rw [stringChars_append, skipBlanks_cons (by decide)]
  exact readString_flatMap_escapeChar _ _

theorem readMembers_of_brace {fuel : Nat} {key : String} {cs rest : List Char} {j : Json}
    (hj : readValue fuel cs = .ok (j, '}' :: rest)) :
    readMembers (fuel + 1) (stringChars key ++ ':' :: cs) = .ok ([(key, j)], rest) := by
  have hcolon : skipBlanks (':' :: cs) = ':' :: cs := skipBlanks_cons (by decide) _
  have hbrace : skipBlanks ('}' :: rest) = '}' :: rest := skipBlanks_cons (by decide) _
  rw [readMembers, readQuoted_stringChars]
  simp only [bind, Except.bind, hcolon, hj, hbrace, String.ofList_toList]

theorem readMembers_of_comma {fuel : Nat} {key : String} {cs behind rest : List Char} {j : Json}
    {members : List (String × Json)} (hj : readValue fuel cs = .ok (j, ',' :: behind))
    (hmore : readMembers fuel behind = .ok (members, rest)) :
    readMembers (fuel + 1) (stringChars key ++ ':' :: cs) = .ok ((key, j) :: members, rest) := by
  have hcolon : skipBlanks (':' :: cs) = ':' :: cs := skipBlanks_cons (by decide) _
  have hcomma : skipBlanks (',' :: behind) = ',' :: behind := skipBlanks_cons (by decide) _
  rw [readMembers, readQuoted_stringChars]
  simp only [bind, Except.bind, hcolon, hj, hcomma, hmore, String.ofList_toList]

/-- The items of an array are read up to its closing bracket, if each of them is read back. -/
theorem readItems_itemsChars {j : Json} {items : List Json}
    (hitems : ∀ k ∈ j :: items, IsReadBack k) {fuel : Nat} (rest : List Char)
    (hfuel : (itemsChars (j :: items)).length < fuel) :
    readItems fuel (itemsChars (j :: items) ++ ']' :: rest) = .ok (j :: items, rest) := by
  induction items generalizing j fuel with
  | nil =>
      obtain ⟨n, rfl⟩ : ∃ n, fuel = n + 1 := ⟨fuel - 1, by omega⟩
      rw [itemsChars_singleton] at hfuel ⊢
      exact readItems_of_bracket (hitems j List.mem_cons_self n _ (by omega) (.bracket rest))
  | cons k items ih =>
      obtain ⟨n, rfl⟩ : ∃ n, fuel = n + 1 := ⟨fuel - 1, by omega⟩
      rw [itemsChars_cons_cons, List.length_append, List.length_cons] at hfuel
      rw [itemsChars_cons_cons, List.append_assoc, List.cons_append]
      exact readItems_of_comma (hitems j List.mem_cons_self n _ (by omega) (.comma _))
        (ih (fun x hx => hitems x (List.mem_cons_of_mem j hx)) (by omega))

/-- The members of an object are read up to its closing brace, if each of their values is read
back. -/
theorem readMembers_membersChars {m : String × Json} {members : List (String × Json)}
    (hmembers : ∀ x ∈ m :: members, IsReadBack x.2) {fuel : Nat} (rest : List Char)
    (hfuel : (membersChars (m :: members)).length < fuel) :
    readMembers fuel (membersChars (m :: members) ++ '}' :: rest) = .ok (m :: members, rest) := by
  induction members generalizing m fuel with
  | nil =>
      obtain ⟨key, j⟩ := m
      obtain ⟨n, rfl⟩ : ∃ n, fuel = n + 1 := ⟨fuel - 1, by omega⟩
      rw [membersChars_singleton, List.length_append, List.length_cons] at hfuel
      rw [membersChars_singleton, List.append_assoc, List.cons_append]
      have hj : IsReadBack j := hmembers (key, j) List.mem_cons_self
      exact readMembers_of_brace (hj n _ (by omega) (.brace rest))
  | cons x members ih =>
      obtain ⟨key, j⟩ := m
      obtain ⟨n, rfl⟩ : ∃ n, fuel = n + 1 := ⟨fuel - 1, by omega⟩
      rw [membersChars_cons_cons, List.length_append, List.length_cons, List.length_append,
        List.length_cons] at hfuel
      rw [membersChars_cons_cons, List.append_assoc, List.cons_append, List.append_assoc,
        List.cons_append]
      have hj : IsReadBack j := hmembers (key, j) List.mem_cons_self
      exact readMembers_of_comma (hj n _ (by omega) (.comma _))
        (ih (fun y hy => hmembers y (List.mem_cons_of_mem _ hy)) (by omega))

/-! ## Reading documents -/

theorem isReadBack_array {items : List Json} (hintegral : ∀ j ∈ items, Integral j)
    (hitems : ∀ j ∈ items, IsReadBack j) : IsReadBack (.array items) := by
  intro fuel rest hfuel hrest
  rw [chars_array, List.length_cons, List.length_append, List.length_singleton] at hfuel
  rw [chars_array, List.cons_append, List.append_assoc, List.singleton_append]
  obtain ⟨n, rfl⟩ : ∃ n, fuel = n + 1 := ⟨fuel - 1, by omega⟩
  rw [readValue, skipBlanks_cons (by decide)]
  cases items with
  | nil => rfl
  | cons j items =>
      obtain ⟨c, cs, hchars, hblank, hbracket⟩ :=
        (hintegral j List.mem_cons_self).exists_chars_eq_cons
      have hread : readItems n (itemsChars (j :: items) ++ ']' :: rest) =
          .ok (j :: items, rest) :=
        readItems_itemsChars hitems rest (by omega)
      -- The first item starts the array, so the bracket does not close at once.
      obtain ⟨more, hmore⟩ : ∃ more, itemsChars (j :: items) ++ ']' :: rest = c :: more := by
        cases items with
        | nil => exact ⟨_, by rw [itemsChars_singleton, hchars]; rfl⟩
        | cons k items => exact ⟨_, by rw [itemsChars_cons_cons, hchars]; rfl⟩
      rw [hmore] at hread ⊢
      simp only [skipBlanks_cons hblank]
      split
      · rename_i heq
        cases heq
        exact absurd rfl hbracket
      · rw [hread]
        rfl

theorem isReadBack_object {members : List (String × Json)}
    (hmembers : ∀ m ∈ members, IsReadBack m.2) : IsReadBack (.object members) := by
  intro fuel rest hfuel hrest
  rw [chars_object, List.length_cons, List.length_append, List.length_singleton] at hfuel
  rw [chars_object, List.cons_append, List.append_assoc, List.singleton_append]
  obtain ⟨n, rfl⟩ : ∃ n, fuel = n + 1 := ⟨fuel - 1, by omega⟩
  rw [readValue, skipBlanks_cons (by decide)]
  cases members with
  | nil => rfl
  | cons m members =>
      obtain ⟨key, j⟩ := m
      have hread : readMembers n (membersChars ((key, j) :: members) ++ '}' :: rest) =
          .ok ((key, j) :: members, rest) :=
        readMembers_membersChars hmembers rest (by omega)
      -- The first member starts with the quote of its key.
      obtain ⟨more, hmore⟩ :
          ∃ more, membersChars ((key, j) :: members) ++ '}' :: rest = '"' :: more := by
        cases members with
        | nil => exact ⟨_, by rw [membersChars_singleton, stringChars]; rfl⟩
        | cons x members => exact ⟨_, by rw [membersChars_cons_cons, stringChars]; rfl⟩
      rw [hmore] at hread ⊢
      simp only [skipBlanks_cons (show isBlank '"' = false by decide), hread]
      rfl

/-- Every document whose numbers are integers is read back from its text. -/
theorem Integral.isReadBack {j : Json} (hj : j.Integral) : IsReadBack j := by
  induction hj with
  | null =>
      intro fuel rest hfuel hrest
      rw [chars] at hfuel ⊢
      obtain ⟨n, rfl⟩ : ∃ n, fuel = n + 1 := ⟨fuel - 1, by simp at hfuel; omega⟩
      rfl
  | bool b =>
      intro fuel rest hfuel hrest
      cases b <;>
      · rw [chars] at hfuel ⊢
        obtain ⟨n, rfl⟩ : ∃ n, fuel = n + 1 := ⟨fuel - 1, by simp at hfuel; omega⟩
        rfl
  | int i => exact isReadBack_int i
  | string text =>
      intro fuel rest hfuel hrest
      rw [chars_string] at hfuel ⊢
      obtain ⟨n, rfl⟩ : ∃ n, fuel = n + 1 :=
        ⟨fuel - 1, by rw [stringChars] at hfuel; simp at hfuel; omega⟩
      exact readValue_string n text rest
  | array hitems ih => exact isReadBack_array hitems ih
  | object hmembers ih => exact isReadBack_object ih

/-- A document is read back from its compact text, and nothing is left over. -/
theorem Integral.parse?_chars {j : Json} (hj : j.Integral) : parse? j.chars = some j := by
  have hread := hj.isReadBack (2 * j.chars.length + 1) [] (by omega) .nil
  rw [List.append_nil] at hread
  rw [parse?, hread]
  rfl

/-- Documents with the same text are the same. -/
theorem Integral.text_injective {j k : Json} (hj : j.Integral) (hk : k.Integral)
    (htext : j.text = k.text) : j = k := by
  have hchars : j.chars = k.chars := String.ofList_inj.mp htext
  have hparsed := hj.parse?_chars
  rw [hchars, hk.parse?_chars] at hparsed
  exact (Option.some.inj hparsed).symm

/-! ## One line -/

/-- What holds of the comma and of the characters of each item holds of those of all items. -/
theorem forall_mem_itemsChars {P : Char → Prop} (hcomma : P ',') {items : List Json}
    (hitems : ∀ j ∈ items, ∀ c ∈ j.chars, P c) : ∀ c ∈ itemsChars items, P c := by
  induction items with
  | nil =>
      rw [itemsChars]
      nofun
  | cons j items ih =>
      obtain ⟨hj, hrest⟩ := List.forall_mem_cons.mp hitems
      cases items with
      | nil =>
          rw [itemsChars_singleton]
          exact hj
      | cons k items =>
          rw [itemsChars_cons_cons, List.forall_mem_append, List.forall_mem_cons]
          exact ⟨hj, hcomma, ih hrest⟩

/-- What holds of the comma, the colon and the characters of the keys and values holds of those of
all members. -/
theorem forall_mem_membersChars {P : Char → Prop} (hcomma : P ',') (hcolon : P ':')
    (hstring : ∀ text, ∀ c ∈ stringChars text, P c) {members : List (String × Json)}
    (hmembers : ∀ m ∈ members, ∀ c ∈ m.2.chars, P c) : ∀ c ∈ membersChars members, P c := by
  induction members with
  | nil =>
      rw [membersChars]
      nofun
  | cons m members ih =>
      obtain ⟨key, j⟩ := m
      obtain ⟨hj, hrest⟩ := List.forall_mem_cons.mp hmembers
      cases members with
      | nil =>
          rw [membersChars_singleton, List.forall_mem_append, List.forall_mem_cons]
          exact ⟨hstring key, hcolon, hj⟩
      | cons x members =>
          rw [membersChars_cons_cons, List.forall_mem_append, List.forall_mem_cons,
            List.forall_mem_append, List.forall_mem_cons]
          exact ⟨hstring key, hcolon, hj, hcomma, ih hrest⟩

/-- The compact text of a document is one line: there is no control character in it. -/
theorem Integral.le_of_mem_chars {j : Json} (hj : j.Integral) : ∀ c ∈ j.chars, 0x20 ≤ c.toNat := by
  induction hj with
  | null =>
      rw [chars]
      simp
  | bool b => cases b <;> simp [chars]
  | int i =>
      rw [chars_int]
      exact fun c => le_of_mem_signedDecimal
  | string text =>
      rw [chars_string]
      exact fun c => le_of_mem_stringChars
  | array hitems ih =>
      rw [chars_array, List.forall_mem_cons, List.forall_mem_append, List.forall_mem_singleton]
      exact ⟨by decide, forall_mem_itemsChars (by decide) ih, by decide⟩
  | object hmembers ih =>
      rw [chars_object, List.forall_mem_cons, List.forall_mem_append, List.forall_mem_singleton]
      exact ⟨by decide, forall_mem_membersChars (by decide) (by decide)
        (fun _ _ => le_of_mem_stringChars) ih, by decide⟩
/-! ## What a document holds -/

/-- The keys of an object, in order. -/
def keys : Json → List String
  | .object members => members.map Prod.fst
  | _ => []

/-- The value of the first member with the key. -/
def member? (key : String) : Json → Option Json
  | .object members => members.lookup key
  | _ => none

/-- The integer of a text that is a sign, if it is negative, and digits. -/
def readInt? : List Char → Option Int
  | '-' :: digits => (readNumeral 10 digits).map fun n : Nat => -(n : Int)
  | digits => (readNumeral 10 digits).map Int.ofNat

/-- The integer that a number is. -/
def toInt? : Json → Option Int
  | .number literal => readInt? literal.toList
  | _ => none

theorem readInt?_of_nonneg {c : Char} (hc : isDecimalDigit c = true) (cs : List Char) :
    readInt? (c :: cs) = (readNumeral 10 (c :: cs)).map Int.ofNat := by
  have hminus : c ≠ '-' := by
    rintro rfl
    exact absurd hc (by decide)
  rw [readInt?]
  intro digits heq
  exact hminus (List.cons.inj heq).1

/-- An integer is read back from the number that stands for it. -/
theorem toInt?_int (i : Int) : (Json.int i).toInt? = some i := by
  have hread : readNumeral 10 (numeral 10 i.natAbs) = some i.natAbs :=
    readNumeral_numeral (by omega) (by omega) i.natAbs
  show readInt? (signedDecimal i).toList = some i
  rw [toList_signedDecimal]
  by_cases hi : i < 0
  · have habs : -(i.natAbs : Int) = i := by omega
    rw [if_pos hi, List.singleton_append, readInt?, hread, Option.map_some, habs]
  · have habs : Int.ofNat i.natAbs = i := by
      rw [Int.ofNat_eq_natCast]
      omega
    obtain ⟨c, digits, hdigits, hc⟩ := exists_numeral_eq_cons i.natAbs
    rw [if_neg hi, List.nil_append]
    rw [hdigits] at hread ⊢
    rw [readInt?_of_nonneg hc, hread, Option.map_some, habs]

end AddressWatch.Json
