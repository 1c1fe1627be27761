import Mathlib.Data.List.Induction
import StreamSelect.Proofs.Markup.Nesting
import StreamSelect.Proofs.Run.Nesting

/-! What a text is that was parsed without an error. It opened at most one document element, and
nothing in it is wrong except that elements may still be open at its end: the end of a text is not
compared with the open tags. -/
namespace StreamSelect

open Nesting

/-! ### Document elements -/

/-- How many elements open while no other is open. -/
def documentElements (events : List Event) : Nat :=
  (List.range events.length).countP fun i =>
    events[i]?.any Event.isStart && starts (events.take i) == ends (events.take i)

/-- A complete document: one document element, and no element open at the end. -/
def IsDocument (events : List Event) : Prop :=
  documentElements events = 1 ∧ openElements events = some []

theorem documentElements_concat (events : List Event) (event : Event) :
    documentElements (events ++ [event]) = documentElements events +
      if event.isStart ∧ starts events = ends events then 1 else 0 := by
  have hinner : ∀ i ∈ List.range events.length,
      ((events ++ [event])[i]?.any Event.isStart &&
        starts ((events ++ [event]).take i) == ends ((events ++ [event]).take i)) =
      (events[i]?.any Event.isStart && starts (events.take i) == ends (events.take i)) := by
    intro i hi
    have hlt : i < events.length := List.mem_range.1 hi
    rw [List.getElem?_append_left hlt, List.take_append_of_le_length (Nat.le_of_lt hlt)]
  unfold documentElements
  rw [List.length_append, List.length_singleton, List.range_succ, List.countP_append,
    List.countP_congr fun i hi => by rw [hinner i hi]]
  congr 1
  simp [List.countP_cons]

/-- Events that nest well open one document element, unless they open none at all. -/
theorem Nesting.WellNested.documentElements_eq {depth : Option Nat} {events : List Event}
    (h : WellNested depth events) : documentElements events = min 1 (starts events) := by
  induction events using List.reverseRecOn with
  | nil => rfl
  | append_singleton pre event ih =>
    have hpre := h.of_prefix (List.prefix_append pre [event])
    have hsingle := h.single pre [event] rfl
    rw [documentElements_concat, ih hpre, starts_append]
    cases event with
    | startElement e =>
      have hs : starts [.startElement e] = 1 := rfl
      rw [hs] at hsingle ⊢
      unfold Closed at hsingle
      simp only [Event.isStart, true_and]
      split
      · omega
      · have hle := hpre.ends_le pre List.prefix_rfl
        omega
    | endElement e => rfl
    | characters c => rfl
    | declaration x => rfl

namespace Machine

variable {B D σ : Type} {m : Machine B D} {src : EventSource σ} {s : σ} {d : D}

/-- A run that ends well has met no failure of the source, and has taken all its events. -/
theorem play_of_consume (h : (m.consume src s {} d).error = none) :
    (src.script s).failure = none ∧ (m.play (src.script s).events {} d).error = none ∧
      (m.consume src s {} d).run = (m.play (src.script s).events {} d).run := by
  have hdrain : (m.drain src s {} d).error = none := h
  rw [show (m.consume src s {} d).run = (m.drain src s {} d).run from rfl]
  rw [drain_eq_play] at hdrain ⊢
  cases he : (m.play (src.script s).events {} d).error with
  | some e =>
    rw [Reply.andThen_of_error he, he] at hdrain
    cases hdrain
  | none =>
    rw [Reply.andThen_of_ok he] at hdrain ⊢
    cases hf : (src.script s).failure with
    | none => exact ⟨rfl, rfl, rfl⟩
    | some failure =>
      rw [hf] at hdrain
      cases hdrain

end Machine

namespace Parser

variable {B D : Type}

/-- A text that is parsed without an error was read to its end. It opened at most one document
element, and what its tags left open is what the run holds open; so the text was a complete document
exactly if the run is done and holds no element. -/
theorem isDocument_of_parseText (p : Parser B D) (text : String) (d : D)
    (h : (p.parseText text d).error = none) :
    let script := Markup.TextSource.events.script (p.source text)
    let run := (p.parseText text d).run
    script.failure = none ∧ documentElements script.events ≤ 1 ∧
      openElements script.events = some run.openNames ∧
        (IsDocument script.events ↔ run.done = true ∧ run.depth = 0) := by
  intro script run
  have hconsume : (p.machine.consume Markup.TextSource.events (p.source text) {} d).error = none := h
  obtain ⟨hfailure, hplay, hsame⟩ := Machine.play_of_consume hconsume
  have hrun : run = (p.machine.play script.events {} d).run := hsame
  obtain ⟨hnest, hstands⟩ := Machine.stands_of_play hplay
  obtain ⟨names, hopen⟩ :=
    Markup.TextSource.nest_script (Markup.TextSource.holds_ofText text p.settings.trimText)
  have hnames : run.openNames = names := by
    rw [hrun]
    exact (Machine.play_open (m := p.machine) (r := {}) hopen d).2 hplay
  have hopenNames : openElements script.events = some run.openNames := by
    rw [hnames]
    exact hopen
  have hcount : documentElements script.events = min 1 (starts script.events) :=
    hnest.documentElements_eq
  have hdepth : run.depth + ends script.events = starts script.events := by
    rw [hrun]
    exact hstands.depth
  have hdone : run.done = true ↔ Closed script.events := by
    rw [hrun]
    exact hstands.done
  have hlength : run.openNames = [] ↔ run.depth = 0 := by
    rw [← List.length_eq_zero_iff, Run.openNames, List.length_map]
    exact Iff.rfl
  refine ⟨hfailure, by omega, hopenNames, ?_⟩
  rw [IsDocument, hopenNames, Option.some.injEq, hlength, hcount, hdone, Closed]
  omega

end Parser

/-! ### A text that breaks off -/

/-- The next event, with what was read of the text to find it. -/
theorem Markup.TextSource.readEvent_eq (s : Markup.TextSource) :
    s.readEvent =
      match s.locate.trimFront.rest with
      | [] => (.ok none, s.locate.trimFront)
      | c :: text =>
        match Token.read c text with
        | .error fault =>
          (.error (.malformed (.lexical fault) s.locate.tracker.location), s.locate.trimFront)
        | .ok lexeme =>
          let after := { s.locate.trimFront with
            rest := lexeme.rest
            position := s.locate.trimFront.position + Text.byteLength lexeme.source }
          match after.take s.locate.tracker.location lexeme.token with
          | .error e => (.error e, after)
          | .ok (some event, next) => (.ok (some event), next)
          | .ok (none, next) => next.readEvent := by
  rw [readEvent]
  dsimp only
  split
  · rename_i hrest
    rw [hrest]
  · rename_i c text hrest
    rw [hrest]
    dsimp only
    split
    · rename_i fault hread
      rw [hread]
    · rename_i lexeme hread
      rw [hread]
      dsimp only
      split
      all_goals
        rename_i htake
        rw [htake]

/-- A parser whose model selects the elements named `row` and does nothing with them. -/
def rowParser : Parser Unit Unit := ⟨rows.model, rows.behaviours, rows.filters, {}⟩

/-- The source of a text that opens an element and breaks off. -/
theorem script_openTag : Markup.TextSource.events.script (rowParser.source "<a>") =
    ⟨[.startElement ⟨.plain "a", .empty, some ⟨1, 1, 0⟩⟩], none⟩ := by
  have hfirst : (Markup.TextSource.events.poll (rowParser.source "<a>")).1 =
      some (.ok (.startElement ⟨.plain "a", .empty, some ⟨1, 1, 0⟩⟩)) := by
    rw [Markup.TextSource.poll_eq, Markup.TextSource.next, Markup.TextSource.readEvent_eq]
    with_unfolding_all rfl
  have hlast : (Markup.TextSource.events.poll
      (Markup.TextSource.events.poll (rowParser.source "<a>")).2).1 = none := by
    rw [Markup.TextSource.poll_eq, Markup.TextSource.next, Markup.TextSource.readEvent_eq,
      Markup.TextSource.poll_eq, Markup.TextSource.next, Markup.TextSource.readEvent_eq]
    with_unfolding_all rfl
  rw [EventSource.script_of_event (Prod.ext hfirst rfl),
    EventSource.script_of_none (Prod.ext hlast rfl)]
  rfl

theorem reply_openTag :
    (rowParser.parseText "<a>" ()).error = none ∧
      (rowParser.parseText "<a>" ()).run.openNames = [.plain "a"] ∧
        (rowParser.parseText "<a>" ()).run.done = false := by
  have hdrain := rowParser.machine.drain_eq_play Markup.TextSource.events (rowParser.source "<a>") {} ()
  rw [script_openTag] at hdrain
  have herror : (rowParser.parseText "<a>" ()).error =
      (rowParser.machine.drain Markup.TextSource.events (rowParser.source "<a>") {} ()).error := rfl
  have hrun : (rowParser.parseText "<a>" ()).run =
      (rowParser.machine.drain Markup.TextSource.events (rowParser.source "<a>") {} ()).run := rfl
  rw [herror, hrun, hdrain]
  refine ⟨?_, ?_, ?_⟩
  all_goals cbv

/-- The open element goes unnoticed. -/
theorem accepted_openTag : (rowParser.parseText "<a>" ()).error = none ∧
    ¬((rowParser.parseText "<a>" ()).run.done = true ∧
      (rowParser.parseText "<a>" ()).run.depth = 0) := by
  obtain ⟨herror, hnames, hdone⟩ := reply_openTag
  refine ⟨herror, fun h => ?_⟩
  rw [hdone] at h
  exact absurd h.1 Bool.false_ne_true

/-- What the text left open is what the run holds open, so the text was no document. -/
theorem isDocument_openTag :
    (rowParser.parseText "<a>" ()).error = none ∧
      openElements (Markup.TextSource.events.script (rowParser.source "<a>")).events =
        some [.plain "a"] ∧
      ¬IsDocument (Markup.TextSource.events.script (rowParser.source "<a>")).events := by
  obtain ⟨herror, hnames, hdone⟩ := reply_openTag
  obtain ⟨-, -, hopen, hiff⟩ := rowParser.isDocument_of_parseText "<a>" () herror
  refine ⟨herror, ?_, ?_⟩
  · rw [hopen, hnames]
  · rw [hiff, hdone]
    exact fun h => absurd h.1 Bool.false_ne_true

end StreamSelect
