/-
  AddressWatch.Proofs.Program.EventLines

  What can be read from the output of a watch in JSON. Each event is one line, whatever the name of
  its interface holds, so the output falls into as many lines as there are events, and each line is
  an object that shows its event (`event_lines`). No two sequences of events have the same output.
-/

import Mathlib.Data.List.Forall2
import AddressWatch.AddressRecord.Json
import AddressWatch.Proofs.IpAddr.Text
import AddressWatch.Proofs.Json.Document
import AddressWatch.Proofs.Program.Watch

namespace AddressWatch

/-! ## Reading an event -/

/-- The text that the first member with the key holds. -/
def Json.memberText? (key : String) (j : Json) : Option String :=
  match j.member? key with
  | some (.string text) => some text
  | _ => none

/-- The kind of change that a word stands for. -/
def ChangeKind.ofText? : String → Option ChangeKind
  | "added" => some .added
  | "removed" => some .removed
  | "changed" => some .changed
  | _ => none

theorem ChangeKind.ofText?_text (kind : ChangeKind) : ofText? kind.text = some kind := by
  cases kind <;> rfl

/-- A family is read back from its name. -/
theorem AddressFamily.ofName_text (f : AddressFamily) : ofName f.text.toList = .ok f := by
  cases f <;> rfl

namespace ChangeEvent

/-- The event that a document shows, and the family that it shows of the address. -/
def ofJson? (j : Json) : Option (ChangeEvent × AddressFamily) := do
  let interface ← j.memberText? "interface"
  let address ← IpAddr.parse? (← j.memberText? "address").toList
  let family ← (AddressFamily.ofName (← j.memberText? "family").toList).toOption
  let kind ← ChangeKind.ofText? (← j.memberText? "kind")
  pure (⟨interface, address, kind⟩, family)

theorem ofJson?_toJson (e : ChangeEvent) : ofJson? e.toJson = some (e, e.family) := by
  have hinterface : e.toJson.memberText? "interface" = some e.interface := rfl
  have haddress : e.toJson.memberText? "address" = some e.address.text := rfl
  have hfamily : e.toJson.memberText? "family" = some e.family.text := rfl
  have hkind : e.toJson.memberText? "kind" = some e.kind.text := rfl
  rw [ofJson?, hinterface, haddress, hfamily, hkind]
  simp only [Option.bind_eq_bind, Option.bind_some, IpAddr.parse?_text, AddressFamily.ofName_text,
    ChangeKind.ofText?_text]
  rfl

/-- The line is an object with the four members of an event, and what they say is the event and the
family of its address. -/
def ShownBy (e : ChangeEvent) (line : List Char) : Prop :=
  ∃ j, Json.parse? line = some j ∧ j.keys = ["interface", "address", "family", "kind"] ∧
    ofJson? j = some (e, e.family)

/-- A line shows one event only. -/
theorem ShownBy.unique {e e' : ChangeEvent} {line : List Char} (he : e.ShownBy line)
    (he' : e'.ShownBy line) : e = e' := by
  obtain ⟨j, hj, -, hread⟩ := he
  obtain ⟨j', hj', -, hread'⟩ := he'
  obtain rfl : j = j' := Option.some.inj (hj.symm.trans hj')
  exact congrArg Prod.fst (Option.some.inj (hread.symm.trans hread'))

theorem integral_toJson (e : ChangeEvent) : e.toJson.Integral := by
  refine .object fun m hm => ?_
  simp only [List.mem_cons, List.not_mem_nil, or_false] at hm
  rcases hm with rfl | rfl | rfl | rfl
  · exact .string _
  · exact .string _
  · exact .string _
  · exact .string _

theorem shownBy_chars (e : ChangeEvent) : e.ShownBy e.toJson.chars :=
  ⟨e.toJson, e.integral_toJson.parse?_chars, rfl, e.ofJson?_toJson⟩

/-- An event has no line break, even if the name of its interface has one. -/
theorem line_break_not_mem_chars (e : ChangeEvent) : '\n' ∉ e.toJson.chars := by
  intro hmem
  -- The escapes of a name and all else in the text are characters from the blank on.
  have hle := e.integral_toJson.le_of_mem_chars '\n' hmem
  exact absurd hle (by decide)

end ChangeEvent

namespace Program

/-! ## Lines -/

/-- Lines that are each ended by a line break are what the text falls into at line breaks, and
behind the last one nothing is left. -/
theorem splitOn_lines {lines : List (List Char)} (hlines : ∀ line ∈ lines, '\n' ∉ line) :
    (lines.flatMap fun line => line ++ ['\n']).splitOn '\n' = lines ++ [[]] := by
  induction lines with
  | nil => rfl
  | cons line lines ih =>
      obtain ⟨hline, hrest⟩ := List.forall_mem_cons.mp hlines
      rw [List.flatMap_cons, List.append_assoc, List.singleton_append,
        List.splitOn_append_cons_self_of_not_mem hline, ih hrest, List.cons_append]

/-- What a watch prints for events: each in the form that is configured, on a line of its own. -/
def printout (json : Bool) (events : List ChangeEvent) : String :=
  String.join ((events.map (renderEvent json)).map fun line => line ++ "\n")

theorem toList_printout (events : List ChangeEvent) :
    (printout true events).toList =
      (events.map fun e => e.toJson.chars).flatMap fun line => line ++ ['\n'] := by
  rw [printout, String.toList_join, List.map_map, List.flatMap_map, List.flatMap_map]
  refine List.flatMap_congr fun e _ => ?_
  show (e.toJson.text ++ "\n").toList = _
  rw [String.toList_append, Json.text, String.toList_ofList]
  rfl

theorem splitOn_printout (events : List ChangeEvent) :
    (printout true events).toList.splitOn '\n' =
      (events.map fun e => e.toJson.chars) ++ [[]] := by
  rw [toList_printout]
  refine splitOn_lines fun line hline => ?_
  obtain ⟨e, -, rfl⟩ := List.mem_map.mp hline
  exact e.line_break_not_mem_chars

theorem forall₂_shownBy (events : List ChangeEvent) :
    List.Forall₂ ChangeEvent.ShownBy events (events.map fun e => e.toJson.chars) := by
  induction events with
  | nil => exact .nil
  | cons e events ih => exact .cons e.shownBy_chars ih

/-- The events are read back from the output. -/
theorem printout_injective {events events' : List ChangeEvent}
    (h : printout true events' = printout true events) : events' = events := by
  -- Both texts fall into the same lines, so each line shows an event of either sequence.
  have hlines : (events'.map fun e => e.toJson.chars) = events.map fun e => e.toJson.chars := by
    have hsplit := congrArg (fun text => text.toList.splitOn '\n') h
    simp only [splitOn_printout] at hsplit
    exact List.append_cancel_right hsplit
  have hshown := forall₂_shownBy events'
  rw [hlines] at hshown
  exact List.left_unique_forall₂' (fun _ _ _ he he' => he.unique he') hshown
    (forall₂_shownBy events)

/-! ## The output of a watch -/

/-- A watch to which the events have been delivered. -/
def delivered (c : Config) (events : List ChangeEvent) : Watched Unit where
  result := .ok ()
  effects := events.map fun e => .performed (receive c e)
  world := ()

theorem printed_delivered (c : Config) (events : List ChangeEvent) :
    Effect.printed (delivered c events).effects = linesOf c events := by
  induction events with
  | nil => rfl
  | cons e events ih =>
      show Effect.printed ([.performed (receive c e)] ++ (delivered c events).effects) =
        linesOf c ([e] ++ events)
      rw [printed_append, printed_receive, linesOf_append, ih]

/-- **Event lines.** The output for events in JSON falls into one line for each event, in order, and
each line is an object from which its event and the family of its address are read. Other events
have another output. It is what a watch prints when the events are delivered, less those whose
interface is not selected. -/
theorem event_lines (events : List ChangeEvent) :
    (∃ lines, (printout true events).toList.splitOn '\n' = lines ++ [[]] ∧
      List.Forall₂ ChangeEvent.ShownBy events lines) ∧
    (∀ events', printout true events' = printout true events → events' = events) ∧
    ∀ c : Config, (delivered (c.withJson true) events).completion.output =
      printout true (events.filter (selects c)) := by
  refine ⟨⟨_, splitOn_printout events, forall₂_shownBy events⟩, fun _ => printout_injective,
    fun c => ?_⟩
  rw [Watched.completion, printed_delivered]
  rfl

/-- An interface whose name ends its line, and would go on as an event, is shown in one line. -/
theorem event_lines_of_line_break :
    let forged : ChangeEvent := ⟨"a\"\x7d\n\x7b\"", .v4 ⟨10, 0, 0, 1⟩, .removed⟩
    let mapped : ChangeEvent := ⟨"", .v6 ⟨0, 0, 0, 0, 0, 0xffff, 0x102, 0x304⟩, .changed⟩
    (∃ first second, (printout true [forged, mapped]).toList.splitOn '\n' = [first, second, []] ∧
      forged.ShownBy first ∧ mapped.ShownBy second) ∧
    printout true [mapped, forged] ≠ printout true [forged, mapped] := by
  intro forged mapped
  obtain ⟨⟨lines, hsplit, hshown⟩, hinjective, -⟩ := event_lines [forged, mapped]
  refine ⟨?_, fun hsame => ?_⟩
  · cases hshown with
    | cons hfirst hrest =>
        cases hrest with
        | cons hsecond hnone =>
            cases hnone
            exact ⟨_, _, hsplit, hfirst, hsecond⟩
  · exact absurd (hinjective _ hsame) (by decide)

end Program

end AddressWatch
