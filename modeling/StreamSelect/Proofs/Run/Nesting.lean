import Mathlib.Data.List.Induction
import Mathlib.Data.List.Permutation
import StreamSelect.Construction
import StreamSelect.Proofs.Automaton.Growth
import StreamSelect.Proofs.Run.Acceptance
import StreamSelect.Proofs.Run.Play

-- `List.Permutation` has the equations of pairs that `cbv` evaluates the example below with.

/-! The events that a run takes. A run whose states are not limited and whose handlers do not fail
looks at nothing but the starts and ends before an event: it takes a list of events exactly if they
nest into at most one element of a depth that is allowed. -/
namespace StreamSelect

namespace Event

def isStart : Event → Bool
  | .startElement _ => true
  | _ => false

def isEnd : Event → Bool
  | .endElement _ => true
  | _ => false

end Event

namespace Nesting

def starts (events : List Event) : Nat := events.countP Event.isStart

def ends (events : List Event) : Nat := events.countP Event.isEnd

/-- An element has opened and none is open any more. -/
def Closed (events : List Event) : Prop := starts events ≠ 0 ∧ starts events = ends events

instance (events : List Event) : Decidable (Closed events) := by
  unfold Closed
  infer_instance

/-- Events that nest into at most one element, with no more elements open at once than allowed. -/
structure WellNested (depth : Option Nat) (events : List Event) : Prop where
  ends_le : ∀ pre, pre <+: events → ends pre ≤ starts pre
  single : ∀ pre post, pre ++ post = events → Closed pre → starts post = 0
  shallow : ∀ limit, depth = some limit → ∀ pre, pre <+: events → starts pre ≤ ends pre + limit

/-- What is wrong with an event after others. -/
def offence? (depth : Option Nat) (pre : List Event) : Event → Option Cause
  | .startElement e =>
    if Closed pre then some (.protocol (.afterDocument e.name))
    else match depth with
      | some limit => if ends pre + limit ≤ starts pre then some (.depth limit) else none
      | none => none
  | .endElement e => if starts pre = ends pre then some (.protocol (.nothingOpen e.name)) else none
  | .characters _ => none
  | .declaration _ => none

theorem starts_append (xs ys : List Event) : starts (xs ++ ys) = starts xs + starts ys :=
  List.countP_append

theorem ends_append (xs ys : List Event) : ends (xs ++ ys) = ends xs + ends ys :=
  List.countP_append

theorem wellNested_nil (depth : Option Nat) : WellNested depth [] := by
  refine ⟨fun pre hp => ?_, fun pre post hp _ => ?_, fun limit _ pre hp => ?_⟩
  · rw [List.prefix_nil.1 hp]
    exact Nat.le_refl _
  · rw [(List.append_eq_nil_iff.1 hp).2]
    rfl
  · rw [List.prefix_nil.1 hp]
    exact Nat.zero_le _

section

variable {depth : Option Nat} {events pre : List Event} {event : Event}

theorem WellNested.of_prefix (h : WellNested depth events) (hp : pre <+: events) :
    WellNested depth pre := by
  obtain ⟨rest, rfl⟩ := hp
  refine ⟨fun inner hi => ?_, fun inner post hi hc => ?_, fun limit hd inner hi => ?_⟩
  · exact h.ends_le inner (hi.trans (List.prefix_append _ _))
  · have hrest := h.single inner (post ++ rest) (by rw [← List.append_assoc, hi]) hc
    rw [starts_append] at hrest
    exact Nat.eq_zero_of_add_eq_zero_right hrest
  · exact h.shallow limit hd inner (hi.trans (List.prefix_append _ _))

/-- An event is right exactly if the counts after it are. -/
theorem WellNested.offence?_eq_none_iff (h : WellNested depth pre) (event : Event) :
    offence? depth pre event = none ↔
      ends (pre ++ [event]) ≤ starts (pre ++ [event]) ∧ (Closed pre → starts [event] = 0) ∧
        ∀ limit, depth = some limit → starts (pre ++ [event]) ≤ ends (pre ++ [event]) + limit := by
  have hends := h.ends_le pre List.prefix_rfl
  have hdepth : ∀ limit, depth = some limit → starts pre ≤ ends pre + limit :=
    fun limit hd => h.shallow limit hd pre List.prefix_rfl
  rw [starts_append, ends_append]
  cases event with
  | startElement e =>
    have hs : starts [.startElement e] = 1 := rfl
    have he : ends [.startElement e] = 0 := rfl
    rw [hs, he]
    by_cases hc : Closed pre
    · simp [offence?, hc]
    · cases depth with
      | none => simp [offence?, hc, Nat.le_succ_of_le hends]
      | some limit =>
        simp only [offence?, if_neg hc, ite_eq_right_iff, reduceCtorEq, imp_false,
          Option.some.injEq, forall_eq']
        exact ⟨fun hlt => ⟨by omega, hc, by omega⟩, fun ⟨_, _, hle⟩ => by omega⟩
  | endElement e =>
    have hs : starts [.endElement e] = 0 := rfl
    have he : ends [.endElement e] = 1 := rfl
    rw [hs, he]
    simp only [offence?, ite_eq_right_iff, reduceCtorEq, imp_false, implies_true, true_and]
    refine ⟨fun hne => ⟨by omega, fun limit hd => ?_⟩, fun hlt => by omega⟩
    have hle := hdepth limit hd
    omega
  | characters c =>
    exact ⟨fun _ => ⟨hends, fun _ => rfl, hdepth⟩, fun _ => rfl⟩
  | declaration x =>
    exact ⟨fun _ => ⟨hends, fun _ => rfl, hdepth⟩, fun _ => rfl⟩

/-- Once the element is closed it stays closed. -/
theorem WellNested.closed_of_append {post : List Event} (h : WellNested depth (pre ++ post))
    (hc : Closed pre) : Closed (pre ++ post) := by
  have hs := h.single pre post rfl hc
  have hle := h.ends_le _ List.prefix_rfl
  obtain ⟨hne, heq⟩ := hc
  rw [starts_append, ends_append, hs, Nat.add_zero] at hle
  rw [Closed, starts_append, ends_append, hs, Nat.add_zero]
  exact ⟨hne, by omega⟩

theorem WellNested.concat (h : WellNested depth pre) (ho : offence? depth pre event = none) :
    WellNested depth (pre ++ [event]) := by
  obtain ⟨hends, hsingle, hdepth⟩ := (h.offence?_eq_none_iff event).1 ho
  refine ⟨fun inner hi => ?_, fun inner post hi hc => ?_, fun limit hd inner hi => ?_⟩
  · rcases List.prefix_concat_iff.1 hi with rfl | hi
    · exact hends
    · exact h.ends_le inner hi
  · rcases List.eq_nil_or_concat post with rfl | ⟨middle, last, rfl⟩
    · rfl
    · rw [List.concat_eq_append] at hi ⊢
      rw [← List.append_assoc] at hi
      obtain ⟨rfl, hlast⟩ := List.append_inj' hi rfl
      rw [starts_append, h.single inner middle rfl hc, hlast, hsingle (h.closed_of_append hc)]
  · rcases List.prefix_concat_iff.1 hi with rfl | hi
    · exact hdepth limit hd
    · exact h.shallow limit hd inner hi

theorem wellNested_concat_iff : WellNested depth (pre ++ [event]) ↔
    WellNested depth pre ∧ offence? depth pre event = none := by
  refine ⟨fun h => ?_, fun ⟨h, ho⟩ => h.concat ho⟩
  have hpre := h.of_prefix (List.prefix_append pre [event])
  refine ⟨hpre, (hpre.offence?_eq_none_iff event).2 ⟨?_, ?_, fun limit hd => ?_⟩⟩
  · exact h.ends_le _ List.prefix_rfl
  · exact h.single pre [event] rfl
  · exact h.shallow limit hd _ List.prefix_rfl

end

end Nesting

open Nesting

/-- Handlers that all go well. -/
theorem Reaction.failure_sequence_map {ι D : Type} {handlers : List ι} {call : ι → D → Reaction D}
    (h : ∀ handler ∈ handlers, ∀ d, (call handler d).failure = none) (d : D) :
    (sequence (handlers.map call) d).failure = none := by
  induction handlers generalizing d with
  | nil => rfl
  | cons handler handlers ih =>
    have hcall := h handler List.mem_cons_self d
    rw [List.map_cons, sequence]
    generalize call handler d = reaction at hcall ⊢
    obtain ⟨d', failure⟩ := reaction
    obtain rfl : failure = none := hcall
    exact ih (fun other ho => h other (List.mem_cons_of_mem _ ho)) d'

namespace Machine

variable {B D : Type}

/-- No state has a limit, and no callback of an attached handler fails. -/
structure Lenient (m : Machine B D) : Prop where
  limit : ∀ s, (m.state s).limit = none
  onStart : ∀ s, ∀ h ∈ m.handlers s, ∀ e d, (h.onStart e d).failure = none
  onEnd : ∀ s, ∀ h ∈ m.handlers s, ∀ e d, (h.onEnd e d).failure = none
  onText : ∀ s, ∀ h ∈ m.handlers s, ∀ e c d, (h.onText e c d).failure = none
  onDeclaration : ∀ o ∈ m.observers, ∀ x d, (o.onDeclaration x d).failure = none

/-- Where a run stands after events that nest well. -/
structure Stands (r : Run) (pre : List Event) : Prop where
  running : r.poisoned = false
  depth : r.depth + ends pre = starts pre
  done : r.done = true ↔ Closed pre

theorem stands_start : Stands {} [] := by
  refine ⟨rfl, rfl, ?_⟩
  simp [Closed, starts]

section

variable {m : Machine B D} {r : Run} {pre : List Event}

theorem Stands.refusal?_eq (h : Stands r pre) (e : StartElement) :
    m.refusal? r e = offence? m.settings.maxDepth pre (.startElement e) := by
  have hd := h.depth
  have hle : ∀ limit, limit ≤ r.depth ↔ ends pre + limit ≤ starts pre := fun limit => by omega
  simp only [refusal?, offence?, h.done]
  cases m.settings.maxDepth <;> simp only [hle]

theorem Lenient.enter_eq (hm : m.Lenient) (r : Run) (e : StartElement) :
    m.enter r e = match m.refusal? r e with
      | some cause => .error cause
      | none => .ok { r with frames := m.frame r e :: r.frames } :=
  enter_of_unlimited hm.limit r e

/-- Text and declarations do not count. -/
theorem Stands.beside {next : Run} (h : Stands r pre) {event : Event} (hs : event.isStart = false)
    (he : event.isEnd = false) (hframes : next.frames = r.frames) (hdone : next.done = r.done)
    (hrunning : next.poisoned = false) : Stands next (pre ++ [event]) := by
  have hstarts : starts (pre ++ [event]) = starts pre := by
    rw [starts_append, Nat.add_eq_left]
    simp [starts, hs]
  have hends : ends (pre ++ [event]) = ends pre := by
    rw [ends_append, Nat.add_eq_left]
    simp [ends, he]
  refine ⟨hrunning, ?_, ?_⟩
  · rw [hstarts, hends, Run.depth, hframes]
    exact h.depth
  · rw [Closed, hstarts, hends, hdone]
    exact h.done

/-- An event that is taken is right, whatever the limits and the handlers. -/
theorem Stands.of_accepts {next : Run} (h : Stands r pre) (haccepts : Accepts m r next event)
    (hrunning : next.poisoned = false) :
    offence? m.settings.maxDepth pre event = none ∧ Stands next (pre ++ [event]) := by
  have hdepth := h.depth
  cases haccepts with
  | @start e entered henter hframes hdone =>
    have hrefusal : m.refusal? r e = none := by
      unfold enter at henter
      split at henter
      · cases henter
      · assumption
    rw [h.refusal?_eq] at hrefusal
    have hclosed : ¬ Closed pre := by
      intro hc
      simp [offence?, hc] at hrefusal
    have hs : starts (pre ++ [.startElement e]) = starts pre + 1 := starts_append _ _
    have he : ends (pre ++ [.startElement e]) = ends pre := ends_append _ _
    have hlength : next.depth = r.depth + 1 := congrArg List.length hframes
    refine ⟨hrefusal, hrunning, by omega, ?_⟩
    rw [hdone, h.done, Closed, Closed, hs, he]
    unfold Closed at hclosed
    omega
  | @finish e f hframes hdone =>
    have hs : starts (pre ++ [.endElement e]) = starts pre := starts_append _ _
    have he : ends (pre ++ [.endElement e]) = ends pre + 1 := ends_append _ _
    have hlength : r.depth = next.depth + 1 := congrArg List.length hframes
    have hdiffer : starts pre ≠ ends pre := by omega
    refine ⟨by simp [offence?, hdiffer], hrunning, by omega, ?_⟩
    rw [hdone, Bool.or_eq_true, h.done, List.isEmpty_iff_length_eq_zero, Closed, Closed, hs, he]
    unfold Run.depth at *
    omega
  | characters hframes hdone => exact ⟨rfl, h.beside rfl rfl hframes hdone hrunning⟩
  | declaration hframes hdone => exact ⟨rfl, h.beside rfl rfl hframes hdone hrunning⟩

theorem Stands.step_of_ok (h : Stands r pre) {d : D} (he : (m.step r event d).error = none) :
    offence? m.settings.maxDepth pre event = none ∧
      Stands (m.step r event d).run (pre ++ [event]) := by
  apply h.of_accepts (accepts_of_step he)
  rw [poisoned_step, he]
  rfl

/-- Where nothing is limited and no handler fails, an event fails for what is wrong with it only. -/
theorem Stands.cause?_step (h : Stands r pre) (hm : m.Lenient) (event : Event) (d : D) :
    (m.step r event d).cause? = offence? m.settings.maxDepth pre event := by
  cases event with
  | startElement e =>
    have henter := hm.enter_eq r e
    rw [h.refusal?_eq] at henter
    cases ho : offence? m.settings.maxDepth pre (.startElement e) with
    | some cause =>
      rw [ho] at henter
      obtain ⟨notes, hstep⟩ := step_start_of_error h.running henter d
      rw [hstep]
      rfl
    | none =>
      rw [ho] at henter
      obtain ⟨notes, hstep⟩ := step_start_of_ok h.running henter d
      have hcalls := Reaction.failure_sequence_map
        (fun handler hh => hm.onStart (m.target r e) handler hh e) d
      rw [hstep, Run.cause?_settle, hcalls]
      rfl
  | endElement e =>
    have hdepth := h.depth
    simp only [step_of_running h.running, finish]
    split
    · rename_i hframes
      have hzero : r.depth = 0 := congrArg List.length hframes
      have hequal : starts pre = ends pre := by omega
      simp [offence?, hequal]
    · rename_i f frames hframes
      have hlength : r.depth = frames.length + 1 := congrArg List.length hframes
      have hdiffer : starts pre ≠ ends pre := by omega
      have hcalls := Reaction.failure_sequence_map
        (fun handler hh => hm.onEnd f.state handler hh e) d
      rw [Run.cause?_settle, hcalls]
      simp [offence?, hdiffer]
  | characters c =>
    simp only [step_of_running h.running, text]
    split
    · rfl
    · rename_i f frames hframes
      rw [Run.cause?_settle, Reaction.failure_sequence_map
        (fun handler hh => hm.onText f.state handler hh f.element c) d]
      rfl
  | declaration x =>
    simp only [step_of_running h.running, declare]
    rw [Run.cause?_settle, Reaction.failure_sequence_map
      (fun observer ho => hm.onDeclaration observer ho x) d]
    rfl

end

/-! ### Runs -/

/-- A run that takes all events has taken events that nest well, whatever its limits and handlers. -/
theorem stands_of_play {m : Machine B D} {events : List Event} {d : D}
    (h : (m.play events {} d).error = none) :
    WellNested m.settings.maxDepth events ∧ Stands (m.play events {} d).run events := by
  refine play_induction (P := fun events r _ => WellNested m.settings.maxDepth events ∧
    Stands r events) ⟨wellNested_nil _, stands_start⟩ ?_ h
  rintro events r d event ⟨hnest, hstands⟩ hok
  obtain ⟨ho, hnext⟩ := hstands.step_of_ok hok
  exact ⟨hnest.concat ho, hnext⟩

theorem Stands.play {m : Machine B D} (hm : m.Lenient) (events : List Event) (d : D) :
    ((m.play events {} d).error = none ↔ WellNested m.settings.maxDepth events) ∧
      ((m.play events {} d).error = none → Stands (m.play events {} d).run events) := by
  refine ⟨⟨fun h => (stands_of_play h).1, fun h => ?_⟩, fun h => (stands_of_play h).2⟩
  induction events using List.reverseRecOn with
  | nil => rfl
  | append_singleton pre event ih =>
    obtain ⟨hpre, ho⟩ := wellNested_concat_iff.1 h
    have he := ih hpre
    have hcause := (stands_of_play he).2.cause?_step hm event (m.play pre {} d).data
    rw [ho, Reply.cause?, Option.map_eq_none_iff] at hcause
    rw [play_append, Reply.andThen_of_ok he, play_singleton]
    exact hcause

/-- A run whose states are not limited and whose handlers do not fail takes exactly the events that
nest well. Until the first offence it knows how many elements are open, and whether the document is
done; it then ends with what is wrong with that event. -/
theorem Lenient.play_nesting {m : Machine B D} (hm : m.Lenient) (events : List Event) (d : D) :
    ((m.play events {} d).error = none ↔ WellNested m.settings.maxDepth events) ∧
      (∀ pre, pre <+: events → WellNested m.settings.maxDepth pre →
        (m.play pre {} d).run.depth + ends pre = starts pre ∧
          ((m.play pre {} d).run.done = true ↔ Closed pre)) ∧
      ∀ pre event rest cause, events = pre ++ event :: rest →
        WellNested m.settings.maxDepth pre → offence? m.settings.maxDepth pre event = some cause →
          (m.play events {} d).cause? = some cause := by
  refine ⟨(Stands.play hm events d).1, ?_, ?_⟩
  · intro pre _ hpre
    obtain ⟨hiff, hstands⟩ := Stands.play hm pre d
    have h := hstands (hiff.2 hpre)
    exact ⟨h.depth, h.done⟩
  · intro pre event rest cause hev hpre ho
    obtain ⟨hiff, hstands⟩ := Stands.play hm pre d
    have hnone := hiff.2 hpre
    have hcause := (hstands hnone).cause?_step hm event (m.play pre {} d).data
    rw [ho] at hcause
    obtain ⟨e, he, -⟩ := Option.map_eq_some_iff.1 hcause
    rw [hev, play_append, Reply.andThen_of_ok hnone, play, Reply.andThen_of_error he]
    exact hcause

end Machine

/-! Documents at most two elements deep, with a handler on the elements named `row`. -/

def rowsBuilder : Builder Unit :=
  ((Builder.ofModel 0).performEach
    [{ statement := .select none [.select (.named (.plain "row")) []] [.attach ()] },
      { statement := .observe () }]).2

def rows : Machine Unit Unit where
  model := ⟨(rowsBuilder.construct (fun _ _ => []) {}).workspace.graph, .root, [()]⟩
  behaviours := ⟨fun _ => {}, fun _ => {}⟩
  filters := ⟨fun _ _ => false, fun _ _ _ => false⟩
  settings := { maxDepth := some 2 }

/-- The events of one document with text around and inside it. The name of the last end is not that
of its start. -/
def rowsEvents : List Event :=
  [.characters ⟨" ", none⟩, .startElement (.ofName (.plain "table")),
    .startElement (.ofName (.plain "row")), .characters ⟨"1", none⟩, .endElement ⟨.plain "row", none⟩,
    .declaration (.doctype ⟨"table", none⟩), .endElement ⟨.plain "tables", none⟩,
    .characters ⟨" ", none⟩]

theorem rows_lenient : rows.Lenient where
  limit s := by
    match s with
    | ⟨0⟩ | ⟨1⟩ | ⟨2⟩ => cbv
    | ⟨n + 3⟩ =>
      have hsize : rows.model.graph.size = 3 := by cbv
      have hs : rows.model.graph.contains ⟨n + 3⟩ = false :=
        decide_eq_false (by rw [hsize]; exact Nat.not_lt.2 (Nat.le_add_left _ _))
      rw [Machine.state, Model.state, Graph.state_of_not_contains hs]
  onStart _ _ h _ _ := by
    obtain ⟨_, _, rfl⟩ := List.mem_map.1 h
    rfl
  onEnd _ _ h _ _ := by
    obtain ⟨_, _, rfl⟩ := List.mem_map.1 h
    rfl
  onText _ _ h _ _ _ := by
    obtain ⟨_, _, rfl⟩ := List.mem_map.1 h
    rfl
  onDeclaration _ h _ _ := by
    obtain ⟨_, _, rfl⟩ := List.mem_map.1 h
    rfl

/-- The events nest well and are taken; one element more is not, neither after the document element
nor as the third inside it. -/
theorem rows_nesting :
    WellNested (some 2) rowsEvents ∧
      (rows.play rowsEvents {} ()).run.done = true ∧
      (rows.play (rowsEvents ++ [.startElement (.ofName (.plain "row"))]) {} ()).cause? =
        some (.protocol (.afterDocument (.plain "row"))) ∧
      (rows.play (rowsEvents.take 4 ++ [.startElement (.ofName (.plain "cell"))]) {} ()).cause? =
        some (.depth 2) := by
  have hnest : ∀ events, (rows.play events {} ()).error = none → WellNested (some 2) events :=
    fun events => (rows_lenient.play_nesting events ()).1.1
  have hall := hnest rowsEvents (by cbv)
  have hopen := hnest (rowsEvents.take 4) (by cbv)
  obtain ⟨-, hstands, -⟩ := rows_lenient.play_nesting rowsEvents ()
  refine ⟨hall, (hstands _ List.prefix_rfl hall).2.2 (by decide), ?_, ?_⟩
  · exact (rows_lenient.play_nesting _ ()).2.2 _ _ [] _ rfl hall (by cbv)
  · exact (rows_lenient.play_nesting _ ()).2.2 _ _ [] _ rfl hopen (by cbv)

end StreamSelect
