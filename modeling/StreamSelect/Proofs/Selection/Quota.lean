import StreamSelect.Proofs.Document.Causes
import StreamSelect.Proofs.Run.Failure
import StreamSelect.Proofs.Run.Occurrences
import StreamSelect.Proofs.Selection.NamedPath

/-! Limits of paths. Where the one limited state is entered by the elements at a path, its counter
tells how many of them there were. A run over a document that holds too many fails at the first one
too many, if it gets there; nothing else fails for the limit. -/
namespace StreamSelect

/-- Whether the names from the document element down to an element are those of a path. -/
def atPath (path : List Name) (around : List StartElement) (e : StartElement) : Bool :=
  namePath (e :: around) == path

theorem length_of_atPath {path : List Name} {around : List StartElement} {e : StartElement}
    (h : atPath path around e = true) : path.length = around.length + 1 := by
  have hlength := congrArg List.length (names_beq_iff.1 h)
  simpa [namePath] using hlength.symm

/-- The elements at a path, in document order. -/
def elementsAt (path : List Name) (events : List Event) : List StartElement :=
  elementsWhere (atPath path) [] events

theorem elementsAt_concat (path : List Name) (events : List Event) (event : Event) :
    elementsAt path (events ++ [event]) =
      elementsAt path events ++ event.picked (atPath path) (events.foldl Event.opened []) := by
  rw [elementsAt, elementsWhere_append, elementsWhere, elementsWhere, List.append_nil]
  rfl

/-- If more than `k` elements are accepted, there is one with `k` of them before it. -/
theorem exists_split {accepts : List StartElement → StartElement → Bool}
    {around : List StartElement} {events : List Event} {k : Nat}
    (h : k < (elementsWhere accepts around events).length) :
    ∃ pre e post, events = pre ++ .startElement e :: post ∧
      (elementsWhere accepts around pre).length = k ∧
      accepts (pre.foldl Event.opened around) e = true := by
  induction events generalizing around k with
  | nil => cases h
  | cons event events ih =>
    rw [elementsWhere, List.length_append] at h
    by_cases hk : k < (event.picked accepts around).length
    · cases event with
      | startElement e =>
        unfold Event.picked at hk
        dsimp only at hk
        split at hk
        · obtain rfl : k = 0 := Nat.lt_one_iff.1 hk
          exact ⟨[], e, events, rfl, rfl, ‹_›⟩
        · cases hk
      | endElement e | characters c | declaration x => cases hk
    · obtain ⟨pre, e, post, rfl, hlength, haccepts⟩ :=
        @ih (event.opened around) (k - (event.picked accepts around).length) (by omega)
      refine ⟨event :: pre, e, post, rfl, ?_, haccepts⟩
      rw [elementsWhere, List.length_append, hlength]
      omega

namespace Machine

variable {B D : Type} {m : Machine B D} {r : Run}

/-- Where states are without limits no element is one too many. -/
theorem not_cardinality_of_unlimited (hl : ∀ s, (m.state s).limit = none) (events : List Event)
    (d : D) (name : Name) (limit : Nat) :
    (m.play events r d).cause? ≠ some (.cardinality name limit) := by
  intro h
  obtain ⟨error, herror, hcause⟩ := Option.map_eq_some_iff.1 h
  obtain ⟨pre, event, post, -, -, hfails⟩ := exists_failing herror
  obtain ⟨e, -, -, hlimit, -⟩ := exists_spent_of_cardinality
    ((congrArg (Option.map Error.cause) hfails).trans (congrArg some hcause))
  rw [hl] at hlimit
  cases hlimit

/-! ### One limited path -/

variable {path : List Name} {s : StateId} {n : Nat}

/-- One state is limited, and the elements at a path enter it. -/
structure Quota (m : Machine B D) (path : List Name) (s : StateId) (n : Nat) : Prop where
  limit : ∀ t, (m.state t).limit = if t = s then some n else none
  entry : ∀ frames, m.EnteredAll frames → ∀ e,
    m.entry (frames.map Frame.ancestor) e = s ↔ atPath path (frames.map (·.element)) e = true

/-- A run that has taken events: its counters tell how many elements there were at a path, and these
were not too deep. -/
structure Tallied (m : Machine B D) (path : List Name) (s : StateId) (events : List Event)
    (r : Run) : Prop where
  running : r.poisoned = false
  covered : m.Covered r.frames
  entered : m.EnteredAll r.frames
  elements : r.elements = events.foldl Event.opened []
  location : r.location = lastLocation events
  counted : ∃ states, m.Counted r states ∧ states.count s = (elementsAt path events).length
  shallow : 0 < (elementsAt path events).length →
    ∀ limit, m.settings.maxDepth = some limit → path.length ≤ limit

theorem tallied_start (m : Machine B D) (path : List Name) (s : StateId) :
    m.Tallied path s [] {} where
  running := rfl
  covered := trivial
  entered := m.enteredAll_nil
  elements := rfl
  location := rfl
  counted := ⟨[], m.counted_start, rfl⟩
  shallow h := absurd h (Nat.lt_irrefl 0)

/-- An element that opens at the path is not too deep. -/
theorem Tallied.shallow_of_accepts {events : List Event} (h : m.Tallied path s events r)
    {next : Run} {event : Event} (ha : Accepts m r next event)
    (hp : 0 < (event.picked (atPath path) (events.foldl Event.opened [])).length) (limit : Nat)
    (hlimit : m.settings.maxDepth = some limit) : path.length ≤ limit := by
  cases ha with
  | @start e entered henter _ _ =>
    have hpath : atPath path r.elements e = true := by
      rw [h.elements]
      unfold Event.picked at hp
      dsimp only at hp
      split at hp
      · assumption
      · cases hp
    have hallowed : m.refusal? r e = none := by
      unfold enter at henter
      split at henter
      · cases henter
      · assumption
    rw [length_of_atPath hpath, Run.elements, List.length_map]
    exact (refusal?_eq_none_iff.1 hallowed).2 limit hlimit
  | finish _ _ | characters _ _ | declaration _ _ => cases hp

section

variable {events : List Event} (hq : m.Quota path s n) (h : m.Tallied path s events r)
include hq h

theorem Tallied.target_iff (e : StartElement) :
    m.target r e = s ↔ atPath path (events.foldl Event.opened []) e = true := by
  rw [target_eq_entry h.covered, ← h.elements]
  exact hq.entry r.frames h.entered e

/-- The counter of the state is the limit less the elements at the path. -/
theorem Tallied.remainingIn_eq : r.remainingIn s n = n - (elementsAt path events).length := by
  obtain ⟨states, hcounted, hcount⟩ := h.counted
  rw [hcounted.remainingIn_eq ((hq.limit s).trans (if_pos rfl)), hcount]

/-- An event enters the state as often as it opens an element at the path. -/
theorem Tallied.count_entered {next : Run} {event : Event} (ha : Accepts m r next event) :
    (r.entered? next).toList.count s =
      (event.picked (atPath path) (events.foldl Event.opened [])).length := by
  cases ha with
  | @start e entered _ hframes _ =>
    have htarget := h.target_iff hq e
    rw [Run.entered?_of_opened hframes]
    show [m.target r e].count s = _
    unfold Event.picked
    dsimp only
    by_cases ht : m.target r e = s
    · rw [ht, List.count_singleton_self, if_pos (htarget.1 ht), List.length_singleton]
    · rw [if_neg fun hp => ht (htarget.2 hp), List.count_eq_zero.2 (by simpa using Ne.symm ht)]
      rfl
  | finish hframes _ =>
    rw [Run.entered?_of_closed hframes]
    rfl
  | characters hframes _ | declaration hframes _ =>
    rw [Run.entered?_of_frames hframes]
    rfl

theorem Tallied.step {event : Event} {d : D} (hok : (m.step r event d).error = none) :
    m.Tallied path s (events ++ [event]) (m.step r event d).run := by
  have haccepts := accepts_of_step hok
  have hentered := h.count_entered hq haccepts
  have hshallow := h.shallow_of_accepts haccepts
  obtain ⟨states, hcounted, hcount⟩ := h.counted
  constructor
  · rw [poisoned_step, hok]
    rfl
  · exact covered_step h.covered event d
  · exact enteredAll_step h.covered h.entered event d
  · rw [elements_of_accepts haccepts, h.elements, List.foldl_concat]
  · rw [(m.location_step r event d).1, h.location, lastLocation_concat]
  · refine ⟨_, counted_step hcounted event d, ?_⟩
    rw [List.count_append, hcount, hentered, elementsAt_concat, List.length_append]
  · intro hpos
    rw [elementsAt_concat, List.length_append] at hpos
    rcases Nat.eq_zero_or_pos (elementsAt path events).length with hz | hbefore
    · exact hshallow (by omega)
    · exact h.shallow hbefore

end

theorem Quota.tallied_play (hq : m.Quota path s n) {events : List Event} {d : D}
    (h : (m.play events {} d).error = none) : m.Tallied path s events (m.play events {} d).run :=
  play_induction (P := fun events r _ => m.Tallied path s events r) (m.tallied_start path s)
    (fun _ _ _ _ ht hok => ht.step hq hok) h

/-- The run fails for the limit only at an element at the path with `n` of them before it. -/
theorem Quota.lt_of_cardinality (hq : m.Quota path s n) {events : List Event}
    (h : m.Tallied path s events r) {event : Event} {d : D} {name : Name} {limit : Nat}
    (hc : (m.step r event d).cause? = some (.cardinality name limit)) :
    n < (elementsAt path (events ++ [event])).length := by
  obtain ⟨e, rfl, -, hl, hspent⟩ := exists_spent_of_cardinality hc
  rw [hq.limit] at hl
  split at hl
  · rename_i ht
    obtain rfl := Option.some.inj hl
    rw [ht, h.remainingIn_eq hq] at hspent
    have hpicked : Event.picked (atPath path) (events.foldl Event.opened []) (.startElement e) = [e] :=
      if_pos ((h.target_iff hq e).1 ht)
    rw [elementsAt_concat, hpicked, List.length_append, List.length_singleton]
    omega
  · cases hl

/-- An element at the path is rejected if there were `n` of them before it, unless the document is
done. -/
theorem Quota.rejects (hq : m.Quota path s n) (hn : 1 ≤ n) {events : List Event}
    (h : m.Tallied path s events r) (hcount : (elementsAt path events).length = n)
    {e : StartElement} (hpath : atPath path (events.foldl Event.opened []) e = true)
    (hdone : r.done = false) : m.enter r e = .error (.cardinality e.name n) := by
  have ht := (h.target_iff hq e).2 hpath
  have hl : (m.state (m.target r e)).limit = some n := by
    rw [ht]
    exact (hq.limit s).trans (if_pos rfl)
  rw [enter_eq_cardinality_iff hl, refusal?_eq_none_iff]
  refine ⟨⟨hdone, fun limit hlimit => ?_⟩, ?_⟩
  · have hdeep := h.shallow (by omega) limit hlimit
    have hlength := length_of_atPath hpath
    rw [← h.elements, Run.elements, List.length_map] at hlength
    show r.frames.length < limit
    omega
  · rw [ht, h.remainingIn_eq hq, hcount, Nat.sub_self]

/-! ### Limits that are enforced -/

/-- The element at a path that is one too many in a document, and what becomes of a run there. -/
structure Excess (m : Machine B D) (path : List Name) (n : Nat) (doc : Document) (d : D)
    (pre : List Event) (e : StartElement) (post : List Event) : Prop where
  events : doc.events = pre ++ .startElement e :: post
  before : (elementsAt path pre).length = n
  atPath : atPath path (pre.foldl Event.opened []) e = true
  /-- A run that gets there fails there, and no handler hears of the element. -/
  rejected : (m.play pre {} d).error = none →
    (m.play doc.events {} d).error =
        some ⟨.cardinality e.name n, lastLocation (pre ++ [.startElement e])⟩ ∧
      (m.play doc.events {} d).data = (m.play pre {} d).data
  /-- A run that has failed before has not failed for the limit. -/
  earlier : ∀ error, (m.play pre {} d).error = some error →
    (m.play doc.events {} d).error = some error ∧ error.cause.isCardinality = false
  /-- Where no element is too deep and no handler fails the run gets there. -/
  reached : m.settings.maxDepth = none → (∀ b o d, (m.behaviours.react b o d).failure = none) →
    (m.play pre {} d).error = none

/-- A limit on the elements at a path holds in every run. -/
structure Enforces (m : Machine B D) (path : List Name) (n : Nat) : Prop where
  /-- No run with at most `n` of them fails for a limit. -/
  within : ∀ events d, (elementsAt path events).length ≤ n → ∀ name limit,
    (m.play events {} d).cause? ≠ some (.cardinality name limit)
  /-- A document with more of them is rejected at the first one too many. -/
  beyond : ∀ doc d, n < (elementsAt path doc.events).length →
    ∃ pre e post, m.Excess path n doc d pre e post

theorem elementsAt_prefix {pre events : List Event} (h : pre <+: events) :
    (elementsAt path pre).length ≤ (elementsAt path events).length := by
  obtain ⟨rest, rfl⟩ := h
  rw [elementsAt, elementsAt, elementsWhere_append, List.length_append]
  exact Nat.le_add_right _ _

theorem Quota.within (hq : m.Quota path s n) {events : List Event} (d : D)
    (h : (elementsAt path events).length ≤ n) (name : Name) (limit : Nat) :
    (m.play events {} d).cause? ≠ some (.cardinality name limit) := by
  intro hc
  obtain ⟨error, herror, hcause⟩ := Option.map_eq_some_iff.1 hc
  obtain ⟨pre, event, post, rfl, hpre, hfails⟩ := exists_failing herror
  have hlt := hq.lt_of_cardinality (hq.tallied_play hpre)
    ((congrArg (Option.map Error.cause) hfails).trans (congrArg some hcause))
  have hle : (elementsAt path (pre ++ [event])).length ≤
      (elementsAt path (pre ++ event :: post)).length := elementsAt_prefix ⟨post, by simp⟩
  omega

/-- Nothing comes after the end of a document. -/
theorem not_done_of_document {doc : Document} {d : D} {pre post : List Event} {e : StartElement}
    (hevents : doc.events = pre ++ .startElement e :: post)
    (hpre : (m.play pre {} d).error = none) (hr : (m.play pre {} d).run.poisoned = false) :
    (m.play pre {} d).run.done = false := by
  by_contra hdone
  rw [Bool.not_eq_false] at hdone
  have henter : m.enter (m.play pre {} d).run e = .error (.protocol (.afterDocument e.name)) := by
    rw [enter, refusal?, if_pos hdone]
  obtain ⟨notes, hstep⟩ := step_start_of_error hr henter (m.play pre {} d).data
  obtain ⟨herror, -⟩ := play_of_failing hpre (congrArg Reply.error hstep) post
  rw [← hevents] at herror
  cases hindrance_of_error herror

theorem Quota.enforces (hq : m.Quota path s n) (hn : 1 ≤ n) : m.Enforces path n where
  within _ d h name limit := hq.within d h name limit
  beyond doc d h := by
    obtain ⟨pre, e, post, hevents, hbefore, hpath⟩ := exists_split h
    have hearlier : ∀ error, (m.play pre {} d).error = some error →
        (m.play doc.events {} d).error = some error ∧ error.cause.isCardinality = false := by
      intro error herror
      rw [hevents, play_of_error herror]
      refine ⟨herror, ?_⟩
      obtain ⟨cause, location⟩ := error
      cases cause with
      | cardinality name limit =>
        exact absurd (congrArg (Option.map Error.cause) herror)
          (hq.within d (Nat.le_of_eq hbefore) name limit)
      | _ => rfl
    refine ⟨pre, e, post, hevents, hbefore, hpath, fun hpre => ?_, hearlier, fun hdepth hreact => ?_⟩
    · have htallied := hq.tallied_play hpre
      have hdone := not_done_of_document hevents hpre htallied.running
      have henter := hq.rejects hn htallied hbefore hpath hdone
      obtain ⟨notes, hstep⟩ := step_start_of_error htallied.running henter (m.play pre {} d).data
      obtain ⟨herror, hdata⟩ := play_of_failing hpre (congrArg Reply.error hstep) post
      rw [hevents, herror, hdata, hstep, lastLocation_concat, ← htallied.location]
      exact ⟨rfl, rfl⟩
    · rw [Option.eq_none_iff_forall_ne_some]
      intro error herror
      obtain ⟨hdoc, hcause⟩ := hearlier error herror
      obtain ⟨cause, location⟩ := error
      cases hindrance_of_error hdoc with
      | depth hd => exact nomatch hd.symm.trans hdepth
      | cardinality name hl => cases hcause
      | handler hf => exact nomatch hf.symm.trans (hreact _ _ _)

end Machine
end StreamSelect
