/-
  AddressWatch.Proofs.Path

  A leading `~` against the components of a path. Splitting at slashes undoes joining, and what
  follows a slash adds its names to the components of what stands in front of it
  (`components_append_slash`). So the components below a home directory are those of the home
  directory and then the names behind the `~`, however many slashes and `.` stand between them
  (`expandsTilde`).
-/

import Mathlib.Data.List.DropRight
import AddressWatch.Proofs.Config.Loading

namespace AddressWatch

namespace Path

/-! ## Pieces -/

theorem pieces_of_ne {c : Char} (hc : c ≠ '/') (cs : List Char) :
    ∃ first rest, pieces cs = first :: rest ∧ pieces (c :: cs) = (c :: first) :: rest := by
  rw [pieces, if_neg hc]
  cases hcs : pieces cs with
  | cons first rest => exact ⟨first, rest, rfl, rfl⟩
  | nil =>
      -- Every text has a piece, if only the empty one.
      cases cs with
      | nil => cases hcs
      | cons d rest =>
          rw [pieces] at hcs
          split at hcs
          · cases hcs
          · split at hcs <;> cases hcs

theorem pieces_slash (cs : List Char) : pieces ('/' :: cs) = [] :: pieces cs := rfl

theorem pieces_ne_nil (cs : List Char) : pieces cs ≠ [] := by
  cases cs with
  | nil => exact List.cons_ne_nil _ _
  | cons c cs =>
      by_cases hc : c = '/'
      · rw [hc, pieces_slash]
        exact List.cons_ne_nil _ _
      · obtain ⟨first, rest, -, hpieces⟩ := pieces_of_ne hc cs
        rw [hpieces]
        exact List.cons_ne_nil _ _

/-- A slash separates the pieces in front of it from those behind it. -/
theorem pieces_append_slash (ds cs : List Char) :
    pieces (ds ++ '/' :: cs) = pieces ds ++ pieces cs := by
  induction ds with
  | nil => rfl
  | cons d ds ih =>
      rw [List.cons_append]
      by_cases hd : d = '/'
      · rw [hd, pieces_slash, pieces_slash, ih, List.cons_append]
      · obtain ⟨first, rest, hds, hpieces⟩ := pieces_of_ne hd ds
        obtain ⟨first', rest', hds', hpieces'⟩ := pieces_of_ne hd (ds ++ '/' :: cs)
        rw [hpieces, hpieces']
        rw [ih, hds, List.cons_append, List.cons.injEq] at hds'
        rw [← hds'.1, ← hds'.2, List.cons_append]

theorem slash_not_mem_of_mem_pieces {cs piece : List Char} (hpiece : piece ∈ pieces cs) :
    '/' ∉ piece := by
  induction cs generalizing piece with
  | nil =>
      rw [pieces, List.mem_singleton] at hpiece
      rw [hpiece]
      exact List.not_mem_nil
  | cons c cs ih =>
      by_cases hc : c = '/'
      · rw [hc, pieces_slash, List.mem_cons] at hpiece
        rcases hpiece with rfl | hpiece
        · exact List.not_mem_nil
        · exact ih hpiece
      · obtain ⟨first, rest, hcs, hpieces⟩ := pieces_of_ne hc cs
        rw [hpieces, List.mem_cons] at hpiece
        rw [hcs] at ih
        rcases hpiece with rfl | hpiece
        · rw [List.mem_cons, not_or]
          exact ⟨Ne.symm hc, ih List.mem_cons_self⟩
        · exact ih (List.mem_cons_of_mem _ hpiece)

theorem pieces_of_slash_not_mem {piece : List Char} (hpiece : '/' ∉ piece) :
    pieces piece = [piece] := by
  induction piece with
  | nil => rfl
  | cons c cs ih =>
      rw [List.mem_cons, not_or] at hpiece
      obtain ⟨first, rest, hcs, hpieces⟩ := pieces_of_ne (Ne.symm hpiece.1) cs
      rw [ih hpiece.2, List.cons.injEq] at hcs
      rw [hpieces, ← hcs.1, ← hcs.2]

/-- Splitting at slashes undoes joining. -/
theorem pieces_join {ps : List (List Char)} (hne : ps ≠ []) (hps : ∀ p ∈ ps, '/' ∉ p) :
    pieces (join ps) = ps := by
  induction ps with
  | nil => exact absurd rfl hne
  | cons p rest ih =>
      have hp : pieces p = [p] := pieces_of_slash_not_mem (hps p List.mem_cons_self)
      cases rest with
      | nil => exact hp
      | cons q rest =>
          have hrest := ih (List.cons_ne_nil _ _) fun r hr => hps r (List.mem_cons_of_mem _ hr)
          rw [join, pieces_append_slash, hp, hrest, List.singleton_append]
          exact List.cons_ne_nil _ _

/-! ## Components -/

/-- The components that pieces behind the first one stand for. -/
def names (ps : List (List Char)) : List Component := (ps.filter isName).map Component.name

theorem names_append (ps qs : List (List Char)) : names (ps ++ qs) = names ps ++ names qs := by
  rw [names, List.filter_append, List.map_append, names, names]

theorem isName_iff {piece : List Char} : isName piece = true ↔ piece ≠ [] ∧ piece ≠ ['.'] := by
  simp [isName]

theorem components_root (cs : List Char) : components ('/' :: cs) = .root :: names (pieces cs) := rfl

/-- A path that does not begin with a slash begins with its first piece. -/
theorem components_of_pieces {cs first : List Char} {rest : List (List Char)}
    (hcs : pieces cs = first :: rest) (hfirst : first ≠ []) :
    components cs = (if first = ['.'] then .here else .name first) :: names rest := by
  cases cs with
  | nil =>
      cases hcs
      exact absurd rfl hfirst
  | cons c cs =>
      have hc : c ≠ '/' := by
        rintro rfl
        rw [pieces_slash] at hcs
        cases hcs
        exact hfirst rfl
      rw [components]
      · rw [hcs]
        by_cases hdot : first = ['.']
        · rw [if_pos hdot, hdot]
          rfl
        · rw [if_neg hdot]
          have hname : isName first = true := isName_iff.mpr ⟨hfirst, hdot⟩
          split
          · next heq =>
              cases heq
              exact absurd rfl hdot
          · show names (first :: rest) = _
            rw [names, List.filter_cons_of_pos hname]
            rfl
      · exact List.cons_ne_nil c cs
      · rintro _ ⟨⟩
        exact hc rfl

theorem first_ne_nil {c : Char} {cs first : List Char} {rest : List (List Char)} (hc : c ≠ '/')
    (hcs : pieces (c :: cs) = first :: rest) : first ≠ [] := by
  obtain ⟨first', rest', -, hpieces⟩ := pieces_of_ne hc cs
  rw [hpieces, List.cons.injEq] at hcs
  rw [← hcs.1]
  exact List.cons_ne_nil _ _

/-- What follows a slash adds its names. -/
theorem components_append_slash {ds : List Char} (hds : ds ≠ []) (cs : List Char) :
    components (ds ++ '/' :: cs) = components ds ++ names (pieces cs) := by
  obtain ⟨d, ds, rfl⟩ := List.exists_cons_of_ne_nil hds
  by_cases hd : d = '/'
  · rw [hd, List.cons_append, components_root, components_root, pieces_append_slash, names_append,
      List.cons_append]
  · obtain ⟨first, rest, hpieces⟩ := List.exists_cons_of_ne_nil (pieces_ne_nil (d :: ds))
    have hfirst := first_ne_nil hd hpieces
    have hmore : pieces (d :: ds ++ '/' :: cs) = first :: (rest ++ pieces cs) := by
      rw [pieces_append_slash, hpieces, List.cons_append]
    rw [components_of_pieces hmore hfirst, components_of_pieces hpieces hfirst, names_append,
      List.cons_append]

/-- A slash at the end of a directory is not doubled by what follows. -/
theorem components_append_of_slash {ds : List Char} (hds : ds.getLast? = some '/')
    (cs : List Char) : components (ds ++ cs) = components ds ++ names (pieces cs) := by
  obtain ⟨ds, rfl⟩ := List.getLast?_eq_some_iff.mp hds
  rw [List.append_assoc, List.singleton_append]
  by_cases hempty : ds = []
  · rw [hempty]
    rfl
  · have hbare : components (ds ++ ['/']) = components ds := by
      rw [components_append_slash hempty []]
      exact List.append_nil _
    rw [components_append_slash hempty, hbare]

/-- A path that begins with `~` is the only one that has it for its first component. -/
theorem head?_components_eq_tilde_iff {cs : List Char} :
    (components cs).head? = some (.name ['~']) ↔ (pieces cs).head? = some ['~'] := by
  cases cs with
  | nil => exact iff_of_false nofun nofun
  | cons c cs =>
      by_cases hc : c = '/'
      · rw [hc, components_root, pieces_slash]
        exact iff_of_false nofun nofun
      · obtain ⟨first, rest, hpieces⟩ := List.exists_cons_of_ne_nil (pieces_ne_nil (c :: cs))
        rw [components_of_pieces hpieces (first_ne_nil hc hpieces), hpieces, List.head?_cons,
          List.head?_cons, Option.some.injEq, Option.some.injEq]
        by_cases hdot : first = ['.']
        · rw [if_pos hdot, hdot]
          exact iff_of_false nofun (by decide)
        · rw [if_neg hdot, Component.name.injEq]

/-! ## Below a directory -/

theorem filter_dropWhile (ps : List (List Char)) :
    (ps.dropWhile (! isName ·)).filter isName = ps.filter isName := by
  induction ps with
  | nil => rfl
  | cons p ps ih =>
      cases hp : isName p with
      | true => rw [List.dropWhile_cons_of_neg (by simp [hp])]
      | false =>
          rw [List.dropWhile_cons_of_pos (by simp [hp]), ih, List.filter_cons_of_neg (by simp [hp])]

/-- Trimming leaves all names. -/
theorem names_trim (ps : List (List Char)) : names (trim ps) = names ps := by
  rw [names, names, trim, List.filter_reverse, filter_dropWhile, List.filter_reverse,
    List.reverse_reverse, filter_dropWhile]

/-- Trimming makes up no pieces, and what is left begins with a name. -/
theorem trim_sublist (ps : List (List Char)) : (trim ps).Sublist ps :=
  (List.rdropWhile_prefix _ _).sublist.trans (List.dropWhile_sublist _)

theorem isName_of_trim {ps rest : List (List Char)} {first : List Char}
    (ht : trim ps = first :: rest) : isName first = true := by
  have hprefix : first :: rest <+: ps.dropWhile (! isName ·) :=
    ht ▸ List.rdropWhile_prefix _ _
  obtain ⟨more, hmore⟩ := hprefix
  have hhead := List.head?_dropWhile_not (! isName ·) ps
  rw [← hmore, List.cons_append, List.head?_cons] at hhead
  simpa using hhead

/-- What is joined from pieces that begin with a name lies below every directory. -/
theorem components_below (h : List Char) {first : List Char} {rest : List (List Char)}
    (hfirst : isName first = true) (hps : ∀ p ∈ first :: rest, '/' ∉ p) :
    components (below h (join (first :: rest))) = components h ++ names (first :: rest) := by
  have hpieces : pieces (join (first :: rest)) = first :: rest :=
    pieces_join (List.cons_ne_nil _ _) hps
  rw [below]
  by_cases hempty : h = []
  · -- The working directory has no components of its own.
    rw [if_pos (.inl hempty), hempty, List.nil_append,
      components_of_pieces hpieces (isName_iff.mp hfirst).1, if_neg (isName_iff.mp hfirst).2, names,
      names, List.filter_cons_of_pos hfirst]
    rfl
  · by_cases hslash : h.getLast? = some '/'
    · rw [if_pos (.inr hslash), components_append_of_slash hslash, hpieces]
    · rw [if_neg (not_or.mpr ⟨hempty, hslash⟩), components_append_slash hempty, hpieces]

/-- A path with another beginning than `~` stays as it is, whatever is known of a home directory. -/
theorem expandTilde?_of_other {p : List Char} (hp : (components p).head? ≠ some (.name ['~']))
    (home : Option (List Char)) : expandTilde? home p = some p := by
  rw [Ne, head?_components_eq_tilde_iff] at hp
  rw [expandTilde?]
  split
  · next rest hpieces =>
      rw [hpieces] at hp
      exact absurd rfl hp
  · rfl

/-- Behind a `~`, the components follow those of the home directory. -/
theorem exists_expandTilde? {p : List Char} (hp : (components p).head? = some (.name ['~']))
    (h : List Char) : ∃ expanded, expandTilde? (some h) p = some expanded ∧
      components expanded = components h ++ (components p).tail := by
  rw [head?_components_eq_tilde_iff] at hp
  obtain ⟨rest, hpieces⟩ := List.head?_eq_some_iff.mp hp
  have htail : (components p).tail = names rest := by
    rw [components_of_pieces hpieces (List.cons_ne_nil _ _)]
    rfl
  rw [expandTilde?, hpieces, htail, ← names_trim]
  refine ⟨_, rfl, ?_⟩
  simp only
  cases ht : trim rest with
  | nil => exact (List.append_nil _).symm
  | cons first more =>
      refine components_below h (isName_of_trim ht) fun piece hpiece => ?_
      have hmem : piece ∈ rest := (trim_sublist rest).subset (ht ▸ hpiece)
      exact slash_not_mem_of_mem_pieces (hpieces ▸ List.mem_cons_of_mem _ hmem)

end Path

namespace Config

/-- **A leading `~`.** Without a configuration file there is no path. A path whose first component
is not `~` stays as it is, and no home directory is needed for it. Any other path is refused without
a home directory, and with one its components are those of the home directory, and then its own but
the `~`: what follows the `~` never takes the place of the home directory. -/
theorem expandsTilde (cl : CommandLine) (home : Option String) :
    (cl.config = none → path? cl home = .ok none) ∧
    ∀ path, cl.config = some path →
      ((Path.components path.toList).head? ≠ some (.name ['~']) →
        path? cl home = .ok (some path)) ∧
      ((Path.components path.toList).head? = some (.name ['~']) →
        (home = none → path? cl home = .error (.noHome path)) ∧
        ∀ h, home = some h → ∃ expanded, path? cl home = .ok (some expanded) ∧
          Path.components expanded.toList =
            Path.components h.toList ++ (Path.components path.toList).tail) := by
  refine ⟨path?_of_unnamed, fun path hconfig => ⟨fun hother => ?_, fun htilde => ⟨?_, ?_⟩⟩⟩
  · rw [path?_of_expanded hconfig (Path.expandTilde?_of_other hother _), String.ofList_toList]
  · rintro rfl
    have hnone : Path.expandTilde? none path.toList = none :=
      Path.expandTilde?_eq_none_iff.mpr ⟨Path.head?_components_eq_tilde_iff.mp htilde, rfl⟩
    exact path?_of_homeless hconfig hnone
  · rintro h rfl
    obtain ⟨expanded, hexpanded, hcomponents⟩ := Path.exists_expandTilde? htilde h.toList
    refine ⟨String.ofList expanded, path?_of_expanded hconfig hexpanded, ?_⟩
    rw [String.toList_ofList, hcomponents]

/-- The command line of a list with the given configuration file. -/
def listWith (path : String) : CommandLine := ⟨.list {}, some path, false⟩

/-- Slashes and a `.` behind the `~` do not turn what follows into a path of its own, and a name
that only begins with `~` is a name like others. -/
theorem expandsTilde_of_slashes :
    (∃ expanded, path? (listWith "~//.//etc/./passwd/") (some "/home/user/") = .ok (some expanded) ∧
      Path.components expanded.toList =
        [.root, .name "home".toList, .name "user".toList, .name "etc".toList,
          .name "passwd".toList]) ∧
    path? (listWith "~//.//etc/./passwd/") none = .error (.noHome "~//.//etc/./passwd/") ∧
    path? (listWith "~user/netut.toml") none = .ok (some "~user/netut.toml") := by
  obtain ⟨-, hnamed⟩ := expandsTilde (listWith "~//.//etc/./passwd/") (some "/home/user/")
  obtain ⟨-, htilde⟩ := hnamed _ rfl
  obtain ⟨-, hhome⟩ := htilde (by decide)
  obtain ⟨-, hnamed⟩ := expandsTilde (listWith "~//.//etc/./passwd/") none
  obtain ⟨-, htilde⟩ := hnamed _ rfl
  obtain ⟨hhomeless, -⟩ := htilde (by decide)
  obtain ⟨-, hnamed⟩ := expandsTilde (listWith "~user/netut.toml") none
  obtain ⟨hother, -⟩ := hnamed _ rfl
  refine ⟨hhome _ rfl, hhomeless rfl, hother (by decide)⟩

end Config

end AddressWatch
