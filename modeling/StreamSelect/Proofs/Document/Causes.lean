import StreamSelect.Proofs.Document.Simulation

/-! What a run over a document can fail for. The events of a tree nest, and nothing follows its
outermost element, so a run fails only for a limit or in a handler. -/
namespace StreamSelect

variable {B D : Type}

/-- What may hinder a run over a document: a limit of the depth, a limit of a state, a handler that
fails. -/
inductive Machine.Hindrance (m : Machine B D) : Cause → Prop
  | depth {limit : Nat} (h : m.settings.maxDepth = some limit) : Hindrance m (.depth limit)
  | cardinality {s : StateId} {limit : Nat} (name : Name) (h : (m.state s).limit = some limit) :
    Hindrance m (.cardinality name limit)
  | handler {b : B} {o : Occasion} {d : D} {message : String}
    (h : (m.behaviours.react b o d).failure = some message) : Hindrance m (.handler message)

/-- An evaluation that has met no error, or one for a hindrance. -/
def Progress.Hindered (m : Machine B D) (p : Progress B D) : Prop :=
  ∀ e, p.error = some e → m.Hindrance e.cause

namespace Machine

variable {m : Machine B D} {p : Progress B D}

theorem hindered_of_ok (h : p.error = none) : p.Hindered m := by
  intro e he
  rw [h] at he
  cases he

theorem Hindrance.fail {cause : Cause} (h : m.Hindrance cause) (p : Progress B D) :
    (p.fail cause).Hindered m := by
  intro e he
  obtain rfl := Option.some.inj he
  exact h

theorem hindered_unlessFailed {next : Progress B D → Progress B D} (hp : p.Hindered m)
    (hnext : p.Hindered m → (next p).Hindered m) : (p.unlessFailed next).Hindered m := by
  unfold Progress.unlessFailed
  split
  · exact hp
  · exact hnext hp

theorem hindered_tell (hp : p.Hindered m) (o : Occasion) (audience : List B) :
    (p.tell m.behaviours o audience).Hindered m := by
  induction audience generalizing p with
  | nil => exact hp
  | cons b audience ih =>
    rw [Progress.tell]
    split
    · exact ih hp
    · exact (Hindrance.handler ‹_›).fail _

/-- An element that may not open lies too deep, or its state is spent. -/
theorem hindrance_of_obstacle {above : List Ancestor} {e : StartElement} {cause : Cause}
    (h : m.obstacle? above p e = some cause) : m.Hindrance cause := by
  have hspent : m.spent? p (m.entry above e) e = some cause → m.Hindrance cause := by
    intro hs
    unfold spent? at hs
    split at hs
    · obtain ⟨-, hcause⟩ := Option.ite_none_right_eq_some.1 hs
      rw [← Option.some.inj hcause]
      exact .cardinality e.name ‹_›
    · cases hs
  unfold obstacle? at h
  split at h
  · split at h
    · obtain rfl := Option.some.inj h
      exact .depth ‹_›
    · exact hspent h
  · exact hspent h

theorem hindered_opening (hp : p.Hindered m) (above : List Ancestor) (e : StartElement) :
    (m.evaluateOpening above e p).Hindered m := by
  unfold evaluateOpening
  dsimp only
  split
  · exact (hindrance_of_obstacle ‹_›).fail _
  · exact hindered_tell (p := { p.locate e.location with entered := _ }) hp _ _

theorem hindered_aside (hp : p.Hindered m) (above : List Ancestor) (a : Aside) :
    (m.evaluateAside above p a).Hindered m := by
  cases a with
  | text c =>
    cases above with
    | nil => exact hp
    | cons a above => exact hindered_tell (p := p.locate c.location) hp _ _
  | declaration x => exact hindered_tell (p := p.locate x.location) hp _ _

mutual
theorem hindered_content : ∀ (c : Content) (above : List Ancestor) {p : Progress B D},
    p.Hindered m → (m.evaluate above c p).Hindered m
  | .aside a, above, p, hp => by
    rw [evaluate]
    exact hindered_aside hp above a
  | .element e inside close, above, p, hp => by
    rw [evaluate]
    refine hindered_unlessFailed (hindered_opening hp above e) fun ho => ?_
    refine hindered_unlessFailed (hindered_contents inside _ ho) fun hi => ?_
    exact hindered_tell (p := Progress.locate _ close.location) hi _ _

theorem hindered_contents : ∀ (cs : List Content) (above : List Ancestor) {p : Progress B D},
    p.Hindered m → (m.evaluateAll above cs p).Hindered m
  | [], above, p, hp => by
    rw [evaluateAll]
    exact hp
  | c :: cs, above, p, hp => by
    rw [evaluateAll]
    exact hindered_unlessFailed (hindered_content c above hp) (hindered_contents cs above)
end

/-- A run over a document never fails because an event came at the wrong place. -/
theorem hindrance_of_error {doc : Document} {d : D} {e : Error}
    (h : (m.play doc.events {} d).error = some e) : m.Hindrance e.cause := by
  rw [← m.error_play_recorded doc.events {} (d, []), (tracks_document m doc d).error] at h
  exact hindered_contents doc.contents [] (hindered_of_ok rfl) e h

/-- Nothing can go wrong: no depth is too deep, no state is limited, no handler fails. -/
structure Unhindered (m : Machine B D) : Prop where
  depth : m.settings.maxDepth = none
  limit : ∀ s, (m.state s).limit = none
  react : ∀ b o d, (m.behaviours.react b o d).failure = none

theorem Unhindered.error_play (h : m.Unhindered) (doc : Document) (d : D) :
    (m.recorded.play doc.events {} (d, [])).error = none := by
  rw [error_play_recorded, Option.eq_none_iff_forall_ne_some]
  intro e he
  obtain ⟨cause, location⟩ := e
  cases hindrance_of_error he with
  | depth hd => exact nomatch hd.symm.trans h.depth
  | cardinality name hl => exact nomatch hl.symm.trans (h.limit _)
  | handler hf => exact nomatch hf.symm.trans (h.react _ _ _)

end Machine
end StreamSelect
