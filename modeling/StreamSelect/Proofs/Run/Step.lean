import StreamSelect.Machine

/-! What one event does to a run. A poisoned run takes no event. In a running one an element opens
or is rejected; whatever the handlers do, the frames and the counters are then settled. -/
namespace StreamSelect

namespace Reply

variable {D : Type}

/-- What went wrong, wherever it was. -/
def cause? (reply : Reply D) : Option Cause := reply.error.map (·.cause)

end Reply

namespace Run

variable {D : Type}

theorem lookup_setRemaining (r : Run) (s t : StateId) (n : Nat) :
    (r.setRemaining s n).remaining.lookup t = if t = s then some n else r.remaining.lookup t := by
  unfold setRemaining
  by_cases h : t = s
  · simp [h]
  · have hb : (t == s) = false := beq_false_of_ne h
    simp only [List.lookup_cons, hb, h, ↓reduceIte]
    induction r.remaining with
    | nil => rfl
    | cons entry entries ih =>
      obtain ⟨u, k⟩ := entry
      by_cases hu : u = s
      · simp [hu, List.lookup_cons, hb, ih]
      · simp [hu, List.lookup_cons, ih]

@[simp] theorem cause?_fail (r : Run) (d : D) (cause : Cause) (notes : List Note) :
    (r.fail d cause notes).cause? = some cause := rfl

theorem cause?_settle (next stopped : Run) (reaction : Reaction D) (notes : List Note) :
    (settle next stopped reaction notes).cause? = reaction.failure.map .handler := by
  unfold settle
  cases reaction.failure <;> rfl

/-- What the handlers cannot spoil is the same whether one of them fails or not. -/
theorem run_settle {α : Type} {f : Run → α}
    (hf : ∀ r : Run, f { r with poisoned := true } = f r) {next stopped : Run}
    (h : f stopped = f next) (reaction : Reaction D) (notes : List Note) :
    f (settle next stopped reaction notes).run = f next := by
  unfold settle
  split
  · rfl
  · exact (hf stopped).trans h

end Run

namespace Machine

variable {B D : Type} {m : Machine B D} {r : Run}

theorem step_of_poisoned (h : r.poisoned = true) (event : Event) (d : D) :
    m.step r event d = (r.locate event.location).fail d (.protocol .afterError) [] := by
  simp [step, h]

theorem step_of_running (h : r.poisoned = false) (event : Event) (d : D) :
    m.step r event d =
      match event with
      | .startElement e => m.start (r.locate e.location) e d
      | .endElement e => m.finish (r.locate e.location) e d
      | .characters c => m.text (r.locate c.location) c d
      | .declaration x => m.declare (r.locate x.location) x d := by
  cases event <;> simp [step, h, Event.location]

/-! ### Opening elements -/

/-- Where a run is in the stream does not matter to what an element enters. -/
theorem enter_locate (m : Machine B D) (r : Run) (l : Option Location) (e : StartElement) :
    m.enter (r.locate l) e = (m.enter r e).map (·.locate l) := by
  have hrefusal : m.refusal? (r.locate l) e = m.refusal? r e := rfl
  have htarget : m.target (r.locate l) e = m.target r e := rfl
  have hcount : m.count (r.locate l) (m.target r e) e =
      (m.count r (m.target r e) e).map (·.locate l) := by
    unfold count
    cases (m.state (m.target r e)).limit with
    | none => rfl
    | some limit =>
      have hremaining : (r.locate l).remainingIn (m.target r e) limit =
          r.remainingIn (m.target r e) limit := rfl
      simp only [hremaining]
      cases r.remainingIn (m.target r e) limit <;> rfl
  unfold enter
  rw [hrefusal, htarget, hcount]
  cases m.refusal? r e with
  | some cause => rfl
  | none => cases m.count r (m.target r e) e <;> rfl

/-- An element that may not open leaves the run where it was and the data as they are. -/
theorem step_start_of_error (hr : r.poisoned = false) {e : StartElement} {cause : Cause}
    (he : m.enter r e = .error cause) (d : D) :
    ∃ notes, m.step r (.startElement e) d = (r.locate e.location).fail d cause notes := by
  have hl : m.enter (r.locate e.location) e = .error cause := by rw [enter_locate, he]; rfl
  rw [step_of_running hr]
  simp only [start, hl]
  exact ⟨_, rfl⟩

/-- An element that opens is told to the handlers of its state. -/
theorem step_start_of_ok (hr : r.poisoned = false) {e : StartElement} {entered : Run}
    (he : m.enter r e = .ok entered) (d : D) :
    ∃ notes, m.step r (.startElement e) d =
      Run.settle (entered.locate e.location) (entered.locate e.location)
        (Reaction.sequence ((m.handlers (m.target r e)).map fun h => h.onStart e) d) notes := by
  have hl : m.enter (r.locate e.location) e = .ok (entered.locate e.location) := by
    rw [enter_locate, he]; rfl
  rw [step_of_running hr]
  simp only [start, hl]
  exact ⟨_, rfl⟩

/-! ### Errors -/

/-- Where nothing is limited every element that is not refused opens. -/
theorem enter_of_unlimited (hl : ∀ s, (m.state s).limit = none) (r : Run) (e : StartElement) :
    m.enter r e = match m.refusal? r e with
      | some cause => .error cause
      | none => .ok { r with frames := m.frame r e :: r.frames } := by
  have hcount : m.count r (m.target r e) e = .ok r := by
    rw [count, hl]
  unfold enter
  cases m.refusal? r e with
  | some cause => rfl
  | none => simp only [hcount]

/-- An element that opens has a frame and may count; nothing else changes. -/
theorem enter_eq_ok {e : StartElement} {entered : Run} (h : m.enter r e = .ok entered) :
    entered = { r with frames := m.frame r e :: r.frames, remaining := entered.remaining } := by
  unfold enter count at h
  split at h
  · cases h
  cases hl : (m.state (m.target r e)).limit with
  | none =>
    simp only [hl] at h
    cases h
    rfl
  | some limit =>
    simp only [hl] at h
    cases hn : r.remainingIn (m.target r e) limit with
    | zero =>
      simp only [hn] at h
      cases h
    | succ n =>
      simp only [hn] at h
      cases h
      rfl

/-- An event poisons a run exactly if it ends with an error. -/
theorem poisoned_step (m : Machine B D) (r : Run) (event : Event) (d : D) :
    (m.step r event d).run.poisoned = (m.step r event d).error.isSome := by
  have hsettle : ∀ (next stopped : Run) (reaction : Reaction D) (notes : List Note),
      next.poisoned = false → (Run.settle next stopped reaction notes).run.poisoned =
        (Run.settle next stopped reaction notes).error.isSome := by
    intro next stopped reaction notes hn
    unfold Run.settle
    cases reaction.failure with
    | none => exact hn
    | some message => rfl
  cases hr : r.poisoned with
  | true =>
    rw [step_of_poisoned hr]
    rfl
  | false =>
    cases event with
    | startElement e =>
      cases he : m.enter r e with
      | error cause =>
        obtain ⟨notes, hstep⟩ := step_start_of_error hr he d
        rw [hstep]
        rfl
      | ok entered =>
        obtain ⟨notes, hstep⟩ := step_start_of_ok hr he d
        rw [hstep]
        refine hsettle _ _ _ _ ?_
        rw [enter_eq_ok he]
        exact hr
    | endElement e =>
      simp only [step_of_running hr, finish]
      split
      · rfl
      · exact hsettle _ _ _ _ hr
    | characters c =>
      simp only [step_of_running hr, text]
      split
      · exact hr
      · exact hsettle _ _ _ _ hr
    | declaration x =>
      rw [step_of_running hr]
      exact hsettle _ _ _ _ hr

/-- What an event can fail with. -/
theorem cause?_step {cause : Cause} {event : Event} {d : D}
    (h : (m.step r event d).cause? = some cause) :
    cause = .protocol .afterError ∨
      (∃ e, event = .startElement e ∧ m.enter r e = .error cause) ∨
        (∃ e, event = .endElement e ∧ r.frames = [] ∧ cause = .protocol (.nothingOpen e.name)) ∨
          ∃ message, cause = .handler message := by
  have hsettle : ∀ (next stopped : Run) (reaction : Reaction D) (notes : List Note),
      (Run.settle next stopped reaction notes).cause? = some cause →
        ∃ message, cause = .handler message := by
    intro next stopped reaction notes hs
    rw [Run.cause?_settle, Option.map_eq_some_iff] at hs
    obtain ⟨message, -, rfl⟩ := hs
    exact ⟨message, rfl⟩
  cases hr : r.poisoned with
  | true =>
    rw [step_of_poisoned hr, Run.cause?_fail, Option.some.injEq] at h
    exact .inl h.symm
  | false =>
    cases event with
    | startElement e =>
      cases he : m.enter r e with
      | error refused =>
        obtain ⟨notes, hstep⟩ := step_start_of_error hr he d
        rw [hstep, Run.cause?_fail, Option.some.injEq] at h
        exact .inr (.inl ⟨e, rfl, h ▸ he⟩)
      | ok entered =>
        obtain ⟨notes, hstep⟩ := step_start_of_ok hr he d
        rw [hstep] at h
        exact .inr (.inr (.inr (hsettle _ _ _ _ h)))
    | endElement e =>
      simp only [step_of_running hr, finish] at h
      split at h
      · rename_i hframes
        rw [Run.cause?_fail, Option.some.injEq] at h
        exact .inr (.inr (.inl ⟨e, rfl, hframes, h.symm⟩))
      · exact .inr (.inr (.inr (hsettle _ _ _ _ h)))
    | characters c =>
      simp only [step_of_running hr, text] at h
      split at h
      · cases h
      · exact .inr (.inr (.inr (hsettle _ _ _ _ h)))
    | declaration x =>
      rw [step_of_running hr] at h
      exact .inr (.inr (.inr (hsettle _ _ _ _ h)))

/-- Why an element is rejected. -/
theorem enter_eq_error {e : StartElement} {cause : Cause} (h : m.enter r e = .error cause) :
    cause = .protocol (.afterDocument e.name) ∨ (∃ limit, cause = .depth limit) ∨
      ∃ limit, cause = .cardinality e.name limit := by
  unfold enter at h
  split at h
  · rename_i refused hrefused
    obtain rfl := Except.error.inj h
    unfold refusal? at hrefused
    split at hrefused
    · exact .inl (Option.some.inj hrefused).symm
    · split at hrefused
      · split at hrefused
        · exact .inr (.inl ⟨_, (Option.some.inj hrefused).symm⟩)
        · cases hrefused
      · cases hrefused
  · unfold count at h
    cases hl : (m.state (m.target r e)).limit with
    | none =>
      simp only [hl] at h
      cases h
    | some limit =>
      simp only [hl] at h
      cases hn : r.remainingIn (m.target r e) limit with
      | zero =>
        simp only [hn] at h
        exact .inr (.inr ⟨limit, (Except.error.inj h).symm⟩)
      | succ n =>
        simp only [hn] at h
        cases h

end Machine
end StreamSelect
