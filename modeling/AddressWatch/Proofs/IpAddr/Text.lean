/-
  AddressWatch.Proofs.IpAddr.Text

  Addresses as text. Reading the text of an address gives the address (`IpAddr.parse?_text`), for
  both versions and every form an IPv6 address is written in: all eight groups, a run of zero groups
  left out, and the last two groups in dotted decimal. So different addresses have different texts.
-/

import Mathlib.Data.List.Basic
import AddressWatch.IpAddr.Parser
import AddressWatch.IpAddr.Printer
import AddressWatch.Proofs.IpAddr.Bytes
import AddressWatch.Proofs.Text.Numeral

namespace AddressWatch

open Text

/-! ## Numbers inside a text -/

/-- The text does not go on with a digit of the base. -/
def EndsNumber (base : Nat) (rest : List Char) : Prop :=
  ∀ c ∈ rest.head?, digitValue? base c = none

theorem endsNumber_nil (base : Nat) : EndsNumber base [] := by
  intro c hc
  cases hc

theorem endsNumber_cons {base : Nat} {c : Char} (hc : digitValue? base c = none)
    (rest : List Char) : EndsNumber base (c :: rest) := by
  intro d hd
  rw [List.head?_cons, Option.mem_some_iff] at hd
  rw [← hd]
  exact hc

/-- The digits at the start of a text are those of the number that stands there. -/
theorem takeWhile_numeral_append {base : Nat} (hbase : 2 ≤ base) (hmax : base ≤ 36) (n : Nat)
    {rest : List Char} (hrest : EndsNumber base rest) :
    (numeral base n ++ rest).takeWhile (fun c => (digitValue? base c).isSome) =
      numeral base n := by
  have hdigits : ∀ c ∈ numeral base n, (digitValue? base c).isSome = true := fun c hc =>
    isSome_digitValue?_of_mem_numeral hbase hmax hc
  rw [List.takeWhile_append_of_pos hdigits]
  cases rest with
  | nil => exact List.append_nil _
  | cons c rest =>
      have hc := hrest c rfl
      rw [List.takeWhile_cons_of_neg (by rw [hc]; decide), List.append_nil]

/-- A number is read from its digits and leaves what stands behind them. -/
theorem readNumber?_numeral {base maxDigits n : Nat} {rest : List Char} (hbase : 2 ≤ base)
    (hmax : base ≤ 36) (hlength : (numeral base n).length ≤ maxDigits)
    (hrest : EndsNumber base rest) :
    readNumber? base maxDigits (numeral base n ++ rest) =
      some (n, (numeral base n).length, rest) := by
  rw [readNumber?, takeWhile_numeral_append hbase hmax n hrest]
  rw [if_neg (by omega), readNumeral_numeral hbase hmax, List.drop_left]
  rfl

/-- What a number was read from: its digits, and what was left stands behind them. -/
theorem digits_of_readNumber? {base maxDigits n count : Nat} {cs rest : List Char}
    (hn : readNumber? base maxDigits cs = some (n, count, rest)) :
    ∃ digits, cs = digits ++ rest ∧ ∀ c ∈ digits, (digitValue? base c).isSome = true := by
  rw [readNumber?] at hn
  split at hn
  · cases hn
  · obtain ⟨m, -, hm⟩ := Option.map_eq_some_iff.mp hn
    cases hm
    refine ⟨cs.takeWhile fun c => (digitValue? base c).isSome, ?_, fun c hc => ?_⟩
    · exact (List.prefix_iff_eq_append.mp (List.takeWhile_prefix _)).symm
    · exact List.all_eq_true.mp List.all_takeWhile c hc

theorem eq_cons_of_readChar? {c : Char} {cs rest : List Char} (hc : readChar? c cs = some rest) :
    cs = c :: rest := by
  cases cs with
  | nil => cases hc
  | cons x cs =>
      rw [readChar?] at hc
      split at hc
      · rename_i hx
        cases hc
        rw [hx]
      · cases hc

namespace Ipv4

/-! ## Dotted decimal -/

/-- A byte is read from its decimal digits. -/
theorem readByte?_numeral (b : UInt8) {rest : List Char} (hrest : EndsNumber 10 rest) :
    readByte? (numeral 10 b.toNat ++ rest) = some (b, rest) := by
  have hb := b.toNat_lt
  have hlength : (numeral 10 b.toNat).length ≤ 3 :=
    length_numeral_le (by omega) (by omega) (by omega)
  have hread : readNumber? 10 3 (numeral 10 b.toNat ++ rest) =
      some (b.toNat, (numeral 10 b.toNat).length, rest) :=
    readNumber?_numeral (by omega) (by omega) hlength hrest
  have hhead : (numeral 10 b.toNat ++ rest).head? = (numeral 10 b.toNat).head? :=
    List.head?_append_of_ne_nil _ (numeral_ne_nil _ _)
  have hshape : ¬ ((1 < (numeral 10 b.toNat).length ∧
      (numeral 10 b.toNat ++ rest).head? = some '0') ∨ 255 < b.toNat) := by
    rintro (⟨hlong, hzero⟩ | hlarge)
    · have hone := length_numeral_of_head?_zero (by omega) (by omega) (hhead ▸ hzero)
      omega
    · omega
  rw [readByte?, hread]
  simp only [Option.bind_eq_bind, Option.bind_some]
  rw [if_neg hshape, UInt8.ofNat_toNat]

theorem endsNumber_dot (rest : List Char) : EndsNumber 10 ('.' :: rest) :=
  endsNumber_cons (by decide) rest

theorem chars_append (x : Ipv4) (rest : List Char) :
    x.chars ++ rest =
      numeral 10 x.a.toNat ++ '.' :: (numeral 10 x.b.toNat ++ '.' :: (numeral 10 x.c.toNat ++
        '.' :: (numeral 10 x.d.toNat ++ rest))) := by
  simp [chars, toBytes, joinWith]

/-- An IPv4 address is read from its text. -/
theorem read?_chars_append (x : Ipv4) {rest : List Char} (hrest : EndsNumber 10 rest) :
    read? (x.chars ++ rest) = some (x, rest) := by
  rw [chars_append, read?]
  simp only [readByte?_numeral _ (endsNumber_dot _), readByte?_numeral _ hrest, readChar?,
    Option.bind_eq_bind, Option.bind_some, if_pos]

/-- Where an IPv4 address is read, a dot stands behind the first digits. -/
theorem dot_of_read? {cs rest : List Char} {x : Ipv4} (hx : read? cs = some (x, rest)) :
    ∃ digits after, cs = digits ++ '.' :: after ∧
      ∀ c ∈ digits, (digitValue? 10 c).isSome = true := by
  rw [read?] at hx
  obtain ⟨⟨a, left⟩, ha, hx⟩ := Option.bind_eq_some_iff.mp hx
  obtain ⟨⟨b, _⟩, hb, -⟩ := Option.bind_eq_some_iff.mp hx
  obtain ⟨after, hdot, -⟩ := Option.bind_eq_some_iff.mp hb
  rw [readByte?] at ha
  obtain ⟨⟨n, count, behind⟩, hn, ha⟩ := Option.bind_eq_some_iff.mp ha
  obtain ⟨digits, hcs, hdigits⟩ := digits_of_readNumber? hn
  have hleft : left = behind := by
    simp only at ha
    split at ha
    · cases ha
    · cases ha
      rfl
  rw [hleft] at hdot
  exact ⟨digits, after, by rw [hcs, eq_cons_of_readChar? hdot], hdigits⟩

end Ipv4

namespace Ipv6

/-! ## Groups -/

/-- What may stand behind a group: nothing, or a colon. -/
inductive Ends : List Char → Prop
  | nil : Ends []
  | colon (rest : List Char) : Ends (':' :: rest)

/-- What may stand behind a run of groups: nothing, or two colons. -/
inductive Closes : List Char → Prop
  | nil : Closes []
  | colons (rest : List Char) : Closes (':' :: ':' :: rest)

theorem Ends.endsNumber {rest : List Char} (hrest : Ends rest) : EndsNumber 16 rest := by
  cases hrest with
  | nil => exact endsNumber_nil 16
  | colon rest => exact endsNumber_cons (by decide) rest

/-- No IPv4 address is read where hexadecimal digits stand with no dot behind them. -/
theorem ipv4_read?_eq_none {digits rest : List Char}
    (hdigits : ∀ c ∈ digits, (digitValue? 16 c).isSome = true) (hrest : Ends rest) :
    Ipv4.read? (digits ++ rest) = none := by
  rw [Option.eq_none_iff_forall_not_mem]
  rintro ⟨x, left⟩ hx
  obtain ⟨decimals, after, happend, hdecimals⟩ := Ipv4.dot_of_read? hx
  -- The dot would be one of the digits, or stand behind them where a colon stands.
  rcases List.append_eq_append_iff.mp happend with ⟨more, hmore, hbehind⟩ | ⟨more, hmore, hbehind⟩
  · cases hrest with
    | nil => exact absurd hbehind.symm (List.append_ne_nil_of_right_ne_nil _ (List.cons_ne_nil _ _))
    | colon rest =>
        cases more with
        | nil => cases hbehind
        | cons c more =>
            cases hbehind
            have hcolon := hdecimals ':' (by rw [hmore]; simp)
            exact absurd hcolon (by decide)
  · cases more with
    | nil =>
        rw [List.nil_append] at hbehind
        rw [← hbehind] at hrest
        cases hrest
    | cons c more =>
        cases hbehind
        have hdot := hdigits '.' (by rw [hmore]; simp)
        exact absurd hdot (by decide)

theorem ipv4_read?_group (g : UInt16) {rest : List Char} (hrest : Ends rest) :
    Ipv4.read? (numeral 16 g.toNat ++ rest) = none :=
  ipv4_read?_eq_none
    (fun _ hc => isSome_digitValue?_of_mem_numeral (by omega) (by omega) hc) hrest

theorem ipv4_read?_ends {rest : List Char} (hrest : Ends rest) : Ipv4.read? rest = none :=
  @ipv4_read?_eq_none [] rest (fun _ hc => by cases hc) hrest

/-- The groups of a run as they are written where it starts, or behind other groups. -/
def runText : Bool → List UInt16 → List Char
  | true, gs => groupsText gs
  | false, gs => gs.flatMap fun g => ':' :: numeral 16 g.toNat

theorem groupsText_cons (g : UInt16) (gs : List UInt16) :
    groupsText (g :: gs) = numeral 16 g.toNat ++ runText false gs := by
  induction gs generalizing g with
  | nil => exact (List.append_nil _).symm
  | cons g' gs ih =>
      show numeral 16 g.toNat ++ ':' :: groupsText (g' :: gs) = _
      rw [ih g']
      rfl

theorem skipColon?_runText (first : Bool) (g : UInt16) (gs : List UInt16) (rest : List Char) :
    skipColon? first (runText first (g :: gs) ++ rest) =
      some (numeral 16 g.toNat ++ (runText false gs ++ rest)) := by
  cases first with
  | true =>
      rw [skipColon?, if_pos rfl, runText, groupsText_cons, List.append_assoc]
  | false =>
      rw [skipColon?, if_neg (by decide), runText, List.flatMap_cons, List.append_assoc]
      rfl

theorem runText_ends {gs : List UInt16} {rest : List Char} (hrest : Ends rest) :
    Ends (runText false gs ++ rest) := by
  cases gs with
  | nil => exact hrest
  | cons g gs => exact .colon _

/-- A group is read from its hexadecimal digits. -/
theorem readGroup?_runText (first : Bool) (g : UInt16) (gs : List UInt16) {rest : List Char}
    (hrest : Ends rest) :
    readGroup? first (runText first (g :: gs) ++ rest) = some (g, runText false gs ++ rest) := by
  have hg := g.toNat_lt
  have hlength : (numeral 16 g.toNat).length ≤ 4 :=
    length_numeral_le (by omega) (by omega) (by omega)
  have hread : readNumber? 16 4 (numeral 16 g.toNat ++ (runText false gs ++ rest)) =
      some (g.toNat, (numeral 16 g.toNat).length, runText false gs ++ rest) :=
    readNumber?_numeral (by omega) (by omega) hlength (runText_ends hrest).endsNumber
  rw [readGroup?, skipColon?_runText]
  simp only [Option.bind_eq_bind, Option.bind_some, hread, UInt16.ofNat_toNat]

theorem readEmbedded?_runText (first : Bool) (g : UInt16) (gs : List UInt16) {rest : List Char}
    (hrest : Ends rest) : readEmbedded? first (runText first (g :: gs) ++ rest) = none := by
  rw [readEmbedded?, skipColon?_runText]
  simp only [Option.bind_eq_bind, Option.bind_some, ipv4_read?_group g (runText_ends hrest),
    Option.bind_none]

/-- Reading a run takes its first group and goes on behind it. -/
theorem readGroups_runText_cons (first : Bool) (room : Nat) (g : UInt16) (gs : List UInt16)
    {rest : List Char} (hrest : Ends rest) :
    readGroups first (room + 1) (runText first (g :: gs) ++ rest) =
      let more := readGroups false room (runText false gs ++ rest)
      ⟨g :: more.groups, more.endsInIpv4, more.rest⟩ := by
  rw [readGroups, readEmbedded?_runText first g gs hrest, ite_self,
    readGroup?_runText first g gs hrest]

/-- No group is read where a run has closed. -/
theorem readGroups_closed (first : Bool) (room : Nat) {rest : List Char} (hrest : Closes rest) :
    readGroups first room rest = ⟨[], false, rest⟩ := by
  have hembedded : readEmbedded? first rest = none := by
    cases hrest <;> cases first <;> rfl
  have hgroup : readGroup? first rest = none := by
    cases hrest <;> cases first <;> rfl
  cases room with
  | zero => rfl
  | succ room => rw [readGroups, hembedded, ite_self, hgroup]

/-- A run of groups is read from its text. -/
theorem readGroups_runText (first : Bool) {room : Nat} {gs : List UInt16} {rest : List Char}
    (hroom : gs.length ≤ room) (hrest : Closes rest) :
    readGroups first room (runText first gs ++ rest) = ⟨gs, false, rest⟩ := by
  have hends : Ends rest := by
    cases hrest with
    | nil => exact .nil
    | colons rest => exact .colon _
  induction gs generalizing first room with
  | nil =>
      cases first with
      | true => exact readGroups_closed true room hrest
      | false => exact readGroups_closed false room hrest
  | cons g gs ih =>
      rw [List.length_cons] at hroom
      obtain ⟨r, rfl⟩ : ∃ r, room = r + 1 := ⟨room - 1, by omega⟩
      rw [readGroups_runText_cons first r g gs hends, ih false (by omega)]

theorem ipv4_read?_runText (gs : List UInt16) {rest : List Char} (hrest : Ends rest) :
    Ipv4.read? (runText true gs ++ rest) = none := by
  cases gs with
  | nil => exact ipv4_read?_ends hrest
  | cons g gs =>
      rw [runText, groupsText_cons, List.append_assoc]
      exact ipv4_read?_group g (runText_ends hrest)

/-! ## The longest run of zeros -/

/-- The run is one of zeros among the groups. -/
def ZeroRun.IsRunOf (run : ZeroRun) (groups : List UInt16) : Prop :=
  ∃ front back, groups = front ++ List.replicate run.length 0 ++ back ∧ front.length = run.start

/-- The run, unless it is empty, is one of zeros at the end of the groups. -/
def ZeroRun.EndsAt (run : ZeroRun) (groups : List UInt16) : Prop :=
  run.length ≠ 0 →
    ∃ front, groups = front ++ List.replicate run.length 0 ∧ front.length = run.start

theorem ZeroRun.IsRunOf.append {run : ZeroRun} {groups : List UInt16} (hrun : run.IsRunOf groups)
    (more : List UInt16) : run.IsRunOf (groups ++ more) := by
  obtain ⟨front, back, hgroups, hstart⟩ := hrun
  exact ⟨front, back ++ more, by rw [hgroups, List.append_assoc], hstart⟩

/-- The run with one more zero at its end; an empty run starts at that zero. -/
def ZeroRun.grown (run : ZeroRun) (position : Nat) : ZeroRun :=
  if run.length = 0 then ⟨position, 1⟩ else ⟨run.start, run.length + 1⟩

theorem longestZeroRunFrom_zero (position : Nat) (current best : ZeroRun) (rest : List UInt16) :
    longestZeroRunFrom position current best (0 :: rest) =
      longestZeroRunFrom (position + 1) (current.grown position)
        (if best.length < (current.grown position).length then current.grown position else best)
        rest := rfl

theorem ZeroRun.EndsAt.grown {run : ZeroRun} {groups : List UInt16} (hrun : run.EndsAt groups) :
    ∃ front, groups ++ [0] = front ++ List.replicate (run.grown groups.length).length 0 ∧
      front.length = (run.grown groups.length).start := by
  rw [ZeroRun.grown]
  split
  · exact ⟨groups, rfl, rfl⟩
  · rename_i hlength
    obtain ⟨front, hgroups, hstart⟩ := hrun hlength
    refine ⟨front, ?_, hstart⟩
    rw [List.replicate_succ', ← List.append_assoc, ← hgroups]

/-- The groups are what stands in front of the run, its zeros, and what stands behind it. -/
theorem ZeroRun.IsRunOf.split {run : ZeroRun} {groups : List UInt16} (hrun : run.IsRunOf groups) :
    groups.take run.start ++ List.replicate run.length 0 ++ groups.drop (run.start + run.length) =
        groups ∧
      run.start + run.length ≤ groups.length := by
  obtain ⟨front, back, rfl, hstart⟩ := hrun
  have hbehind : (front ++ List.replicate run.length 0).length = run.start + run.length := by
    rw [List.length_append, List.length_replicate, hstart]
  constructor
  · rw [List.drop_left' hbehind, List.append_assoc front, List.take_left' hstart,
      ← List.append_assoc]
  · rw [List.length_append]
    omega

/-- What the scan gives is a run of zeros, if what it has found so far is one. -/
theorem longestZeroRunFrom_isRunOf {seen rest : List UInt16} {current best : ZeroRun}
    (hcurrent : current.EndsAt seen) (hbest : best.IsRunOf seen) :
    (longestZeroRunFrom seen.length current best rest).IsRunOf (seen ++ rest) := by
  induction rest generalizing seen current best with
  | nil =>
      rw [List.append_nil]
      exact hbest
  | cons g rest ih =>
      have hposition : seen.length + 1 = (seen ++ [g]).length := by simp
      rw [← List.singleton_append, ← List.append_assoc, List.singleton_append]
      by_cases hg : g = 0
      · -- The run that ends here grows, and may now be the longest one.
        subst hg
        obtain ⟨front, hfront, hstart⟩ := hcurrent.grown
        rw [longestZeroRunFrom_zero, hposition]
        refine ih (fun _ => ⟨front, hfront, hstart⟩) ?_
        split
        · exact ⟨front, [], by rw [hfront, List.append_nil], hstart⟩
        · exact hbest.append [0]
      · rw [longestZeroRunFrom, if_neg hg, hposition]
        exact ih (fun hne => absurd rfl hne) (hbest.append [g])

theorem longestZeroRun_isRunOf (groups : List UInt16) :
    (longestZeroRun groups).IsRunOf groups :=
  @longestZeroRunFrom_isRunOf [] groups ⟨0, 0⟩ ⟨0, 0⟩ (fun hne => absurd rfl hne)
    ⟨[], [], rfl, rfl⟩

/-! ## Addresses -/

theorem length_toGroups (x : Ipv6) : x.toGroups.length = 8 := rfl

/-- An address with a run of zeros left out is read with the zeros filled in. -/
theorem read?_shortened {front back : List UInt16} (hlength : front.length + back.length < 8) :
    read? (groupsText front ++ ':' :: ':' :: groupsText back) =
      (ofGroups? (front ++ List.replicate (8 - front.length - back.length) 0 ++ back)).map
        (·, []) := by
  have hfront : readGroups true 8 (groupsText front ++ ':' :: ':' :: groupsText back) =
      ⟨front, false, ':' :: ':' :: groupsText back⟩ :=
    readGroups_runText true (by omega) (.colons _)
  have hback : readGroups true (7 - front.length) (groupsText back ++ []) = ⟨back, false, []⟩ :=
    readGroups_runText true (by omega) .nil
  rw [List.append_nil] at hback
  rw [read?, hfront]
  simp only [readChar?, if_pos, if_neg (show ¬ front.length = 8 by omega), Bool.false_eq_true,
    if_false, Option.bind_eq_bind, Option.bind_some, hback]
  cases ofGroups? _ <;> rfl

/-- An address with all its groups is read from them. -/
theorem read?_full (x : Ipv6) : read? (groupsText x.toGroups) = some (x, []) := by
  have hgroups : readGroups true 8 (groupsText x.toGroups ++ []) = ⟨x.toGroups, false, []⟩ :=
    readGroups_runText true (Nat.le_of_eq (length_toGroups x)) .nil
  rw [List.append_nil] at hgroups
  rw [read?, hgroups]
  simp only [length_toGroups, if_pos, ofGroups?_toGroups, Option.map_some]

/-- The two ways in which the groups of an address are written. -/
theorem compressed_cases (x : Ipv6) :
    compressed x.toGroups = groupsText x.toGroups ∨
      ∃ front back, compressed x.toGroups = groupsText front ++ ':' :: ':' :: groupsText back ∧
        front.length + back.length < 8 ∧
        x.toGroups = front ++ List.replicate (8 - front.length - back.length) 0 ++ back := by
  obtain ⟨hgroups, hwithin⟩ := (longestZeroRun_isRunOf x.toGroups).split
  rw [length_toGroups] at hwithin
  rw [compressed]
  split
  · rename_i hlong
    have hfront : (x.toGroups.take (longestZeroRun x.toGroups).start).length =
        (longestZeroRun x.toGroups).start := by
      rw [List.length_take, length_toGroups]
      omega
    have hback := List.length_drop (l := x.toGroups)
      (i := (longestZeroRun x.toGroups).start + (longestZeroRun x.toGroups).length)
    rw [length_toGroups] at hback
    refine .inr ⟨_, _, List.append_assoc _ _ _, by omega, ?_⟩
    rw [hfront, hback, show 8 - (longestZeroRun x.toGroups).start -
      (8 - ((longestZeroRun x.toGroups).start + (longestZeroRun x.toGroups).length)) =
        (longestZeroRun x.toGroups).length by omega]
    exact hgroups.symm
  · exact .inl rfl

theorem read?_compressed (x : Ipv6) : read? (compressed x.toGroups) = some (x, []) := by
  rcases compressed_cases x with hfull | ⟨front, back, hshort, hlength, hgroups⟩
  · rw [hfull, read?_full]
  · rw [hshort, read?_shortened hlength, ← hgroups, ofGroups?_toGroups]
    rfl

theorem ipv4_read?_compressed (x : Ipv6) : Ipv4.read? (compressed x.toGroups) = none := by
  rcases compressed_cases x with hfull | ⟨front, back, hshort, -, -⟩
  · have hgroups := ipv4_read?_runText x.toGroups .nil
    rw [List.append_nil] at hgroups
    rw [hfull]
    exact hgroups
  · rw [hshort]
    exact ipv4_read?_runText front (.colon _)

/-- The groups of an IPv4-mapped address end in those of the IPv4 address. -/
theorem toGroups_of_mapped? {x : Ipv6} {a : Ipv4} (ha : x.mapped? = some a) :
    x.toGroups = [0, 0, 0, 0, 0, 0xffff, groupOf a.a a.b, groupOf a.c a.d] := by
  rw [mapped?] at ha
  split at ha
  · rename_i high low hgroups
    have hbytes : groupBytes high ++ groupBytes low = [a.a, a.b, a.c, a.d] :=
      (Ipv4.ofBytes?_eq_some_iff.mp ha).symm
    simp only [groupBytes, List.cons_append, List.nil_append, List.cons.injEq, and_true] at hbytes
    obtain ⟨h₁, h₂, h₃, h₄⟩ := hbytes
    rw [← h₁, ← h₂, ← h₃, ← h₄, groupOf_groupBytes, groupOf_groupBytes]
    exact hgroups
  · cases ha

/-- The last two groups are read from an IPv4 address behind a colon. -/
theorem readGroups_embedded (a : Ipv4) (room : Nat) :
    readGroups false (room + 2) (':' :: a.chars) =
      ⟨[groupOf a.a a.b, groupOf a.c a.d], true, []⟩ := by
  have hread := Ipv4.read?_chars_append a (endsNumber_nil 10)
  rw [List.append_nil] at hread
  have hembedded : readEmbedded? false (':' :: a.chars) =
      some ([groupOf a.a a.b, groupOf a.c a.d], []) := by
    rw [readEmbedded?]
    simp only [skipColon?, readChar?, Bool.false_eq_true, if_false, if_pos, Option.bind_eq_bind,
      Option.bind_some, hread]
  rw [readGroups, if_pos (by omega), hembedded]

theorem read?_mapped {x : Ipv6} {a : Ipv4} (ha : x.mapped? = some a) :
    read? ([':', ':', 'f', 'f', 'f', 'f', ':'] ++ a.chars) = some (x, []) := by
  have hdigits : ['f', 'f', 'f', 'f'] = runText true [0xffff] := by decide +kernel
  have hhead := readGroups_closed true 8 (Closes.colons (['f', 'f', 'f', 'f'] ++ ':' :: a.chars))
  have htail := readGroups_runText_cons true 6 0xffff [] (Ends.colon a.chars)
  rw [← hdigits, runText, List.flatMap_nil, List.nil_append, readGroups_embedded a 4] at htail
  have hgroups := ofGroups?_toGroups x
  rw [toGroups_of_mapped? ha] at hgroups
  show read? (':' :: ':' :: (['f', 'f', 'f', 'f'] ++ ':' :: a.chars)) = _
  rw [read?, hhead]
  simp only [List.length_nil, readChar?, if_pos, Nat.sub_zero, Bool.false_eq_true, if_false,
    Option.bind_eq_bind, Option.bind_some, htail]
  -- Five groups of zeros stand in front of the three that were read.
  show ((ofGroups? [0, 0, 0, 0, 0, 0xffff, groupOf a.a a.b, groupOf a.c a.d]).bind fun y =>
    some (y, [])) = some (x, [])
  rw [hgroups]
  rfl

/-- An IPv6 address is read from its text. -/
theorem read?_chars (x : Ipv6) : read? x.chars = some (x, []) := by
  rw [chars]
  cases ha : x.mapped? with
  | some a => exact read?_mapped ha
  | none => exact read?_compressed x

/-- The text of an IPv6 address is not that of an IPv4 address. -/
theorem ipv4_read?_chars (x : Ipv6) : Ipv4.read? x.chars = none := by
  rw [chars]
  cases x.mapped? with
  | some a => exact ipv4_read?_ends (.colon _)
  | none => exact ipv4_read?_compressed x

end Ipv6

namespace IpAddr

theorem parse?_chars (x : IpAddr) : parse? x.chars = some x := by
  cases x with
  | v4 x =>
      have hread := Ipv4.read?_chars_append x (endsNumber_nil 10)
      rw [List.append_nil] at hread
      rw [chars, parse?, hread]
      rfl
  | v6 x =>
      rw [chars, parse?, Ipv6.ipv4_read?_chars, Ipv6.read?_chars]
      rfl

/-- An address is read back from its text. -/
theorem parse?_text (x : IpAddr) : parse? x.text.toList = some x := by
  rw [text, String.toList_ofList, parse?_chars]

theorem text_injective {x y : IpAddr} (htext : x.text = y.text) : x = y := by
  have hx := parse?_text x
  rw [htext, parse?_text y] at hx
  exact (Option.some.inj hx).symm

end IpAddr

end AddressWatch
