import Mathlib.Data.List.Basic
import StreamSelect.Proofs.Document.Openings
import StreamSelect.Proofs.Run.Failure

/-! Handlers that act only when elements start. The data of a run are then what the callbacks for these
starts leave, one after another; a handler that fails does so at the start of an element, and the run
stops there. -/
namespace StreamSelect

variable {B D : Type}

/-! ### Starts of elements -/

namespace Behaviours

/-- The callbacks for the starts of elements, up to the first that fails. -/
def starts (bs : Behaviours B D) (told : List (B × StartElement)) : D → Reaction D :=
  Reaction.sequence (told.map fun t => bs.react t.1 (.opened t.2))

variable (bs : Behaviours B D)

theorem starts_append {xs : List (B × StartElement)} {d d' : D} (h : bs.starts xs d = ⟨d', none⟩)
    (ys : List (B × StartElement)) : bs.starts (xs ++ ys) d = bs.starts ys d' := by
  unfold starts at h ⊢
  rw [List.map_append, Reaction.sequence_append, h]

theorem exists_of_starts_append {xs ys : List (B × StartElement)} {d d' : D}
    (h : bs.starts (xs ++ ys) d = ⟨d', none⟩) :
    ∃ between, bs.starts xs d = ⟨between, none⟩ ∧ bs.starts ys between = ⟨d', none⟩ := by
  unfold starts at h ⊢
  rw [List.map_append, Reaction.sequence_append] at h
  generalize Reaction.sequence (xs.map _) d = reaction at h ⊢
  obtain ⟨between, failure⟩ := reaction
  cases failure with
  | none => exact ⟨between, rfl, h⟩
  | some message => cases h

theorem starts_cons {b : B} {e : StartElement} {d d' : D}
    (h : bs.react b (.opened e) d = ⟨d', none⟩) (rest : List (B × StartElement)) :
    bs.starts ((b, e) :: rest) d = bs.starts rest d' := by
  unfold starts
  rw [List.map_cons, Reaction.sequence_cons, h]
  rfl

theorem openings_round (e : StartElement) (audience : List B) (d : D) :
    openings (bs.round (.opened e) audience d) = audience.map (·, e) := by
  induction audience generalizing d with
  | nil => rfl
  | cons b audience ih => exact congrArg ((b, e) :: ·) (ih _)

/-- A round for the start of an element in which no handler fails. -/
theorem starts_of_quiet {e : StartElement} {audience : List B} {d : D}
    (h : ∀ c ∈ bs.round (.opened e) audience d,
      (bs.react c.behaviour (.opened e) c.data).failure = none) :
    bs.starts (audience.map (·, e)) d = ⟨bs.leave (.opened e) audience d, none⟩ := by
  induction audience generalizing d with
  | nil => rfl
  | cons b audience ih =>
    have hb : bs.react b (.opened e) d = ⟨(bs.react b (.opened e) d).data, none⟩ :=
      congrArg (Reaction.mk _) (h _ List.mem_cons_self)
    rw [List.map_cons, bs.starts_cons hb, ih fun c hc => h c (List.mem_cons_of_mem _ hc)]
    rfl

theorem leave_concat (o : Occasion) (audience : List B) (b : B) (d : D) :
    bs.leave o (audience ++ [b]) d = (bs.react b o (bs.leave o audience d)).data :=
  List.foldl_concat ..

/-- Handlers that do nothing leave the data as they are. -/
theorem leave_of_silent {o : Occasion} (ho : ∀ b d, bs.react b o d = { data := d })
    (audience : List B) (d : D) : bs.leave o audience d = d := by
  induction audience with
  | nil => rfl
  | cons b audience ih =>
    rw [leave, List.foldl_cons, ho]
    exact ih

end Behaviours

theorem openings_append (calls more : List (Call B D)) :
    openings (calls ++ more) = openings calls ++ openings more :=
  List.filterMap_append

/-! ### Runs -/

namespace Machine

/-- Nothing but the start of an element changes the data or fails. -/
structure ActsAtStarts (m : Machine B D) : Prop where
  closed : ∀ b e d, m.behaviours.react b (.closed e) d = { data := d }
  text : ∀ b inside c d, m.behaviours.react b (.text inside c) d = { data := d }
  declared : ∀ b x d, m.behaviours.react b (.declared x) d = { data := d }

variable {m : Machine B D} {r : Run} {event : Event} {log : CallLog B D} {d : D}

/-- An occasion on which handlers act is the start of an element. -/
theorem ActsAtStarts.occasion_cases (h : m.ActsAtStarts) (o : Occasion) :
    (∃ e, o = .opened e) ∨ (∀ b d, m.behaviours.react b o d = { data := d }) ∧
      ∀ audience d, openings (m.behaviours.round o audience d) = [] := by
  have hround : (∀ b d, Call.opening? (⟨b, o, d⟩ : Call B D) = none) →
      ∀ audience d, openings (m.behaviours.round o audience d) = [] := by
    intro ho audience
    induction audience with
    | nil => exact fun _ => rfl
    | cons b audience ih =>
      intro d
      rw [Behaviours.round, openings, List.filterMap_cons_none (ho b d)]
      exact ih _
  cases o with
  | opened e => exact .inl ⟨e, rfl⟩
  | closed e => exact .inr ⟨(h.closed · e), hround fun _ _ => rfl⟩
  | text inside c => exact .inr ⟨(h.text · inside c), hround fun _ _ => rfl⟩
  | declared x => exact .inr ⟨(h.declared · x), hround fun _ _ => rfl⟩

/-- A step without an error adds the starts that it tells of. -/
theorem ActsAtStarts.step (h : m.ActsAtStarts)
    (hd : m.behaviours.starts (openings log.2) d = ⟨log.1, none⟩)
    (hok : (m.recorded.step r event log).error = none) :
    m.behaviours.starts (openings (m.recorded.step r event log).data.2) d =
      ⟨(m.recorded.step r event log).data.1, none⟩ := by
  cases m.recorded.course r event with
  | refused _ hstep =>
    obtain ⟨notes, hstep⟩ := hstep log
    rw [hstep] at hok
    cases hok
  | unheard _ hstep =>
    rw [hstep]
    exact hd
  | @told o audience _ _ _ _ _ hstep =>
    obtain ⟨notes, hstep⟩ := hstep log
    rw [hstep] at hok ⊢
    have hround := m.tell_recorded_map o audience log
    rw [tell_recorded] at hok hround ⊢
    cases hf : (Reaction.sequence (audience.map fun b => m.behaviours.record b o) log).failure with
    | some message =>
      unfold Run.settle at hok
      rw [hf] at hok
      cases hok
    | none =>
      have hdata := Behaviours.round_of_success hf
      simp only [Run.settle, hf]
      rw [hdata, openings_append, m.behaviours.starts_append hd]
      rcases h.occasion_cases o with ⟨e, rfl⟩ | ⟨hsilent, hnone⟩
      · rw [m.behaviours.openings_round]
        have htell : m.tell (.opened e) audience log.1 =
            m.behaviours.starts (audience.map (·, e)) log.1 := by
          unfold tell Behaviours.starts
          rw [List.map_map]
          rfl
        rw [← htell, ← hround, Reaction.map, hdata, hf]
      · rw [hnone, m.behaviours.leave_of_silent hsilent]
        rfl

/-- A run without an error is the starts that were told of. -/
theorem ActsAtStarts.play (h : m.ActsAtStarts) (events : List Event)
    (hok : (m.recorded.play events {} (d, [])).error = none) :
    m.behaviours.starts (openings (m.recorded.play events {} (d, [])).data.2) d =
      ⟨(m.recorded.play events {} (d, [])).data.1, none⟩ :=
  play_induction (P := fun _ _ log => m.behaviours.starts (openings log.2) d = ⟨log.1, none⟩) rfl
    (fun _ _ _ _ hd hstep => h.step hd hstep) hok

/-! ### Runs that fail -/

theorem eq_startElement_of_request? {x : StartElement} {audience : List B}
    (h : m.request? r event = some (.opened x, audience)) : event = .startElement x := by
  cases event with
  | startElement y =>
    obtain ⟨hx, -⟩ := Prod.mk.inj (Option.some.inj h)
    rw [Occasion.opened.inj hx]
  | endElement y =>
    obtain ⟨f, -, hx⟩ := Option.map_eq_some_iff.1 h
    cases hx
  | characters c =>
    obtain ⟨f, -, hx⟩ := Option.map_eq_some_iff.1 h
    cases hx
  | declaration y => cases h

theorem leads_play {events : List Event} (h : (m.play events r d).error = none) :
    m.Leads r events (m.play events r d).run :=
  play_induction (P := fun events s _ => m.Leads r events s) .refl
    (fun _ _ _ event hl _ => hl.step event _) h

/-- A handler that fails in a run was told of the start of an element, and the run stops there. The
starts before it went well. -/
structure StopsAt (m : Machine B D) (events : List Event) (d : D) (message : String) (e : Error)
    (before : List (B × StartElement)) (b : B) (x : StartElement) (pre post : List Event) :
    Prop where
  here : events = pre ++ .startElement x :: post
  error : e = ⟨.handler message, lastLocation (pre ++ [.startElement x])⟩
  /-- The run gets to the element. -/
  reached : (m.play pre {} d).error = none
  told : openings (m.recorded.play events {} (d, [])).data.2 = before ++ [(b, x)]
  fails : ∃ between, m.behaviours.starts before d = ⟨between, none⟩ ∧
    m.behaviours.react b (.opened x) between = ⟨(m.play events {} d).data, some message⟩

theorem ActsAtStarts.stopsAt (h : m.ActsAtStarts) {events : List Event} {e : Error}
    {message : String} (he : (m.play events {} d).error = some e)
    (hcause : e.cause = .handler message) :
    ∃ before b x pre post, m.StopsAt events d message e before b x pre post := by
  rw [← m.error_play_recorded events {} (d, [])] at he
  obtain ⟨pre, event, post, rfl, hpre, hfailing⟩ := exists_failing he
  obtain ⟨-, hdata⟩ := play_of_failing hpre hfailing post
  have hstarts := h.play pre hpre
  have hpre' : (m.play pre {} d).error = none := by
    rw [← m.error_play_recorded pre {} (d, [])]
    exact hpre
  have hrun : (m.recorded.play pre {} (d, [])).run = (m.play pre {} d).run :=
    congrArg Reply.run (m.play_recorded pre {} (d, []))
  generalize (m.recorded.play pre {} (d, [])).data = log at hstarts hfailing hdata
  rw [hrun] at hfailing hdata
  rw [error_step_recorded] at hfailing
  obtain ⟨message', o, told, b, untold, hhandler, hrequest, hquiet, hreact, hleft⟩ :=
    step_of_failure hfailing (by rw [hcause]; rfl)
  obtain rfl : message = message' := Cause.handler.inj (hcause.symm.trans hhandler)
  rcases h.occasion_cases o with ⟨x, rfl⟩ | ⟨hsilent, -⟩
  · obtain rfl := eq_startElement_of_request? hrequest
    rw [hleft] at hdata
    have hfinal : (m.play (pre ++ .startElement x :: post) {} d).data =
        m.behaviours.leave (.opened x) (told ++ [b]) log.1 := by
      rw [← m.play_recorded (pre ++ .startElement x :: post) {} (d, [])]
      exact congrArg Prod.fst hdata
    refine ⟨openings log.2 ++ told.map (·, x), b, x, pre, post, rfl, ?_, hpre', ?_,
      m.behaviours.leave (.opened x) told log.1, ?_, ?_⟩
    · obtain ⟨cause, location⟩ := e
      obtain rfl : cause = .handler message := hcause
      have hbefore : (m.play pre {} d).run.location = lastLocation ([] ++ pre) :=
        (leads_play hpre').location rfl
      rw [lastLocation_concat, ← List.nil_append pre, ← hbefore]
      exact congrArg (Error.mk _) ((m.location_step _ _ log.1).2 _ hfailing)
    · rw [hdata, openings_append, m.behaviours.openings_round, List.map_append, List.append_assoc]
      rfl
    · rw [m.behaviours.starts_append hstarts]
      exact m.behaviours.starts_of_quiet hquiet
    · rw [hfinal, m.behaviours.leave_concat]
      exact congrArg (Reaction.mk _) hreact
  · rw [hsilent] at hreact
    cases hreact

end Machine
end StreamSelect
