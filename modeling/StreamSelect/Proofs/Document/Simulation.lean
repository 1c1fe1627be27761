import StreamSelect.Proofs.Document.Evaluation

/-! The run over the events of a document follows its evaluation: frames stand for the ancestors,
scopes cover them, and what remains of each limit is the limit less the entries counted. -/
namespace StreamSelect

namespace Run

theorem remainingIn_setRemaining (r : Run) (s t : StateId) (n limit : Nat) :
    (r.setRemaining s n).remainingIn t limit = if t = s then n else r.remainingIn t limit := by
  rw [remainingIn, lookup_setRemaining]
  split <;> rfl

end Run

namespace Progress

variable {B D : Type}

theorem unlessFailed_of_error {p : Progress B D} {e : Error} (h : p.error = some e)
    (next : Progress B D → Progress B D) : p.unlessFailed next = p := by
  simp [unlessFailed, h]

theorem unlessFailed_of_ok {p : Progress B D} (h : p.error = none)
    (next : Progress B D → Progress B D) : p.unlessFailed next = next p := by
  simp [unlessFailed, h]

/-- What a round of calls leaves, by the reaction of the recording handlers. -/
theorem tell_eq (m : Machine B D) (o : Occasion) (audience : List B) {p : Progress B D}
    (h : p.error = none) :
    p.tell m.behaviours o audience =
      let reaction := m.recorded.tell o audience p.log
      { p with
        data := reaction.data.1
        calls := reaction.data.2
        error := reaction.failure.map fun message => ⟨.handler message, p.location⟩ } := by
  rw [Machine.tell_recorded]
  induction audience generalizing p with
  | nil =>
    obtain ⟨d, calls, entered, location, error⟩ := p
    cases h
    rfl
  | cons b audience ih =>
    simp only [List.map_cons, Reaction.sequence_cons, tell]
    have hf : (m.behaviours.record b o p.log).failure = (m.behaviours.react b o p.data).failure :=
      rfl
    cases hr : (m.behaviours.react b o p.data).failure with
    | none =>
      rw [hr] at hf
      simp only [hf, Option.isSome_none, Bool.false_eq_true, ↓reduceIte]
      exact ih h
    | some message =>
      rw [hr] at hf
      simp only [hf, Option.isSome_some, ↓reduceIte]
      rfl

end Progress

/-- A run stands where an evaluation stands, below the same ancestors. -/
structure Follows {B D : Type} (m : Machine B D) (above : List Ancestor) (done : Bool) (r : Run)
    (p : Progress B D) : Prop where
  ancestors : r.ancestors = above
  covered : m.Covered r.frames
  counted : ∀ s limit, (m.state s).limit = some limit →
    r.remainingIn s limit + p.entered.count s = limit
  running : r.poisoned = false
  done_eq : r.done = done
  location : r.location = p.location

/-- A reply agrees with an evaluation, and its run follows it as long as there is no error. -/
structure Tracks {B D : Type} (m : Machine B D) (above : List Ancestor) (done : Bool)
    (reply : Reply (CallLog B D)) (p : Progress B D) : Prop where
  data : reply.data = p.log
  error : reply.error = p.error
  follows : p.error = none → Follows m above done reply.run p

section

variable {B D : Type} {m : Machine B D} {above : List Ancestor} {done : Bool} {r : Run}
  {p : Progress B D}

theorem Follows.locate (h : Follows m above done r p) (l : Option Location) :
    Follows m above done (r.locate l) (p.locate l) :=
  { h with location := congrArg l.or h.location }

theorem Follows.target_eq (h : Follows m above done r p) (e : StartElement) :
    m.target r e = m.entry above e := by
  rw [Machine.target_eq_entry h.covered, h.ancestors]

theorem Follows.depth_eq (h : Follows m above done r p) : r.depth = above.length := by
  rw [← h.ancestors, Run.ancestors, List.length_map, Run.depth]

/-- Replies that track evaluations are composed like them. -/
theorem Tracks.andThen {above' : List Ancestor} {done' : Bool}
    {reply : Reply (CallLog B D)}
    {next : Run → CallLog B D → Reply (CallLog B D)} {nextP : Progress B D → Progress B D}
    (h : Tracks m above done reply p)
    (hn : p.error = none → Follows m above done reply.run p →
      Tracks m above' done' (next reply.run p.log) (nextP p)) :
    Tracks m above' done' (reply.andThen next) (p.unlessFailed nextP) := by
  cases he : p.error with
  | some e =>
    rw [Reply.andThen_of_error (h.error.trans he), Progress.unlessFailed_of_error he]
    exact ⟨h.data, h.error, fun hp => by simp [he] at hp⟩
  | none =>
    rw [Reply.andThen_of_ok (h.error.trans he), Progress.unlessFailed_of_ok he, h.data]
    have ht := hn he (h.follows he)
    exact ⟨ht.data, ht.error, ht.follows⟩

/-- A round of calls, in the run and in the evaluation. -/
theorem tracks_settle {next stopped : Run} (hp : p.error = none)
    (hn : Follows m above done next p) (hs : stopped.location = p.location) (o : Occasion)
    (audience : List B) (notes : List Note) :
    Tracks m above done (Run.settle next stopped (m.recorded.tell o audience p.log) notes)
      (p.tell m.behaviours o audience) := by
  rw [Progress.tell_eq m o audience hp]
  obtain ⟨log, failure⟩ := m.recorded.tell o audience p.log
  cases failure with
  | none => exact ⟨rfl, rfl, fun _ => { hn with }⟩
  | some message =>
    refine ⟨rfl, ?_, fun he => by simp at he⟩
    simp [Run.settle, Run.fail, hs]

/-! ### Events -/

theorem tracks_aside (h : Follows m above done r p) (hp : p.error = none) (a : Aside) :
    Tracks m above done (m.recorded.step r a.event p.log) (m.evaluateAside above p a) := by
  rw [Machine.step_of_running h.running]
  cases a with
  | text c =>
    have hl := h.locate c.location
    have hpl : (p.locate c.location).error = none := hp
    simp only [Aside.event, Machine.text, Machine.sequence_onText, Machine.evaluateAside]
    have ha : (r.locate c.location).frames.map Frame.ancestor = above := h.ancestors
    cases hf : (r.locate c.location).frames with
    | nil =>
      rw [hf] at ha
      subst ha
      exact ⟨rfl, hp.symm, fun _ => hl⟩
    | cons f frames =>
      rw [hf] at ha
      subst ha
      exact tracks_settle hpl hl hl.location _ _ _
  | declaration x =>
    have hl := h.locate x.location
    have hpl : (p.locate x.location).error = none := hp
    simp only [Aside.event, Machine.declare, Machine.sequence_onDeclaration]
    exact tracks_settle hpl hl hl.location _ _ _

theorem refusal?_eq (h : Follows m above false r p) (e : StartElement) :
    m.refusal? r e = match m.settings.maxDepth with
      | some limit => if limit ≤ above.length then some (.depth limit) else none
      | none => none := by
  unfold Machine.refusal?
  rw [h.done_eq, h.depth_eq]
  exact if_neg Bool.false_ne_true

theorem count_of_spent (h : Follows m above done r p) {s : StateId} {e : StartElement}
    {cause : Cause} (hs : m.spent? p s e = some cause) : m.count r s e = .error cause := by
  unfold Machine.spent? at hs
  unfold Machine.count
  cases hl : (m.state s).limit with
  | none => simp [hl] at hs
  | some limit =>
    have hc := h.counted s limit hl
    simp only [hl, Option.ite_none_right_eq_some, Option.some.injEq] at hs
    have hz : r.remainingIn s limit = 0 := by omega
    simp only [hz, hs.2]

theorem count_of_unspent (h : Follows m above done r p) {s : StateId} {e : StartElement}
    (hs : m.spent? p s e = none) :
    ∃ counted, m.count r s e = .ok counted ∧ counted.frames = r.frames ∧ counted.done = r.done ∧
      counted.poisoned = r.poisoned ∧ counted.location = r.location ∧
      ∀ t limit, (m.state t).limit = some limit →
        counted.remainingIn t limit + (s :: p.entered).count t = limit := by
  unfold Machine.spent? at hs
  unfold Machine.count
  cases hl : (m.state s).limit with
  | none =>
    refine ⟨r, rfl, rfl, rfl, rfl, rfl, fun t limit ht => ?_⟩
    have hne : s ≠ t := by
      rintro rfl
      simp [hl] at ht
    rw [List.count_cons_of_ne hne]
    exact h.counted t limit ht
  | some limit =>
    have hc := h.counted s limit hl
    simp only [hl, ite_eq_right_iff, reduceCtorEq, imp_false] at hs
    obtain ⟨n, hn⟩ : ∃ n, r.remainingIn s limit = n + 1 := ⟨r.remainingIn s limit - 1, by omega⟩
    simp only [hn]
    refine ⟨r.setRemaining s n, rfl, rfl, rfl, rfl, rfl, fun t limit' ht => ?_⟩
    rw [Run.remainingIn_setRemaining]
    by_cases hts : t = s
    · subst hts
      obtain rfl : limit = limit' := Option.some.inj (hl.symm.trans ht)
      simp only [↓reduceIte, List.count_cons_self]
      omega
    · rw [if_neg hts, List.count_cons_of_ne (Ne.symm hts)]
      exact h.counted t limit' ht

theorem obstacle?_eq (h : Follows m above false r p) (e : StartElement) :
    m.obstacle? above p e = (m.refusal? r e).or (m.spent? p (m.entry above e) e) := by
  unfold Machine.obstacle?
  rw [refusal?_eq h]
  cases m.settings.maxDepth with
  | none => rfl
  | some limit => by_cases hle : limit ≤ above.length <;> simp [hle]

/-- The run refuses an element where the evaluation meets an obstacle. -/
theorem enter_of_obstacle (h : Follows m above false r p) {e : StartElement} {cause : Cause}
    (ho : m.obstacle? above p e = some cause) : m.enter r e = .error cause := by
  rw [obstacle?_eq h] at ho
  rw [Machine.enter, h.target_eq]
  cases hr : m.refusal? r e with
  | some refused =>
    rw [hr, Option.some_or] at ho
    rw [Option.some.inj ho]
  | none =>
    rw [hr, Option.none_or] at ho
    rw [count_of_spent h ho]

theorem enter_of_clear (h : Follows m above false r p) {e : StartElement}
    (ho : m.obstacle? above p e = none) :
    ∃ entered, m.enter r e = .ok entered ∧
      Follows m (⟨m.entry above e, e⟩ :: above) false entered
        { p with entered := m.entry above e :: p.entered } := by
  rw [obstacle?_eq h, Option.or_eq_none_iff] at ho
  obtain ⟨hallowed, hunspent⟩ := ho
  obtain ⟨counted, hcount, hframes, hdone, hpoisoned, hlocation, hcounted⟩ :=
    count_of_unspent h hunspent
  have henter : m.enter r e = .ok { counted with frames := m.frame r e :: r.frames } := by
    rw [Machine.enter, hallowed, h.target_eq, hcount]
  have hframe : (m.frame r e).ancestor = ⟨m.entry above e, e⟩ := by
    rw [← h.target_eq]
    rfl
  refine ⟨_, henter, ?_, ?_, hcounted, hpoisoned.trans h.running, hdone.trans h.done_eq,
    hlocation.trans h.location⟩
  · rw [← hframe, ← h.ancestors]
    rfl
  · exact ⟨Machine.covers_scopeInside h.covered _ e, h.covered⟩

theorem tracks_opening (h : Follows m above false r p) (hp : p.error = none) (e : StartElement) :
    Tracks m (⟨m.entry above e, e⟩ :: above) false (m.recorded.step r (.startElement e) p.log)
      (m.evaluateOpening above e p) := by
  have hl := h.locate e.location
  have hpl : (p.locate e.location).error = none := hp
  have hr : m.recorded.enter (r.locate e.location) e = m.enter (r.locate e.location) e := rfl
  have ht : m.recorded.target (r.locate e.location) e = m.entry above e := hl.target_eq e
  rw [Machine.step_of_running h.running]
  simp only [Machine.evaluateOpening, Machine.start, Machine.sequence_onStart, hr, ht]
  cases ho : m.obstacle? above (p.locate e.location) e with
  | some cause =>
    rw [enter_of_obstacle hl ho]
    refine ⟨rfl, ?_, fun he => by simp [Progress.fail] at he⟩
    simp only [Run.fail, Progress.fail, hl.location]
  | none =>
    obtain ⟨entered, henter, hf⟩ := enter_of_clear hl ho
    have hpe : { p.locate e.location with
        entered := m.entry above e :: (p.locate e.location).entered }.error = none := hp
    rw [henter]
    exact tracks_settle hpe hf hf.location _ _ _

/-- The document is done when the outermost element closes. -/
theorem tracks_closing {a : Ancestor} (h : Follows m (a :: above) false r p) (hp : p.error = none)
    (close : EndElement) :
    Tracks m above above.isEmpty (m.recorded.step r (.endElement close) p.log)
      ((p.locate close.location).tell m.behaviours (.closed close) (m.audience a.state)) := by
  have hl := h.locate close.location
  have hpl : (p.locate close.location).error = none := hp
  rw [Machine.step_of_running h.running]
  simp only [Machine.finish, Machine.sequence_onEnd]
  have ha : (r.locate close.location).frames.map Frame.ancestor = a :: above := hl.ancestors
  cases hf : (r.locate close.location).frames with
  | nil => simp [hf] at ha
  | cons f frames =>
    rw [hf, List.map_cons, List.cons.injEq] at ha
    obtain ⟨rfl, rfl⟩ := ha
    have hcov := hl.covered
    rw [hf] at hcov
    have hd : (r.locate close.location).done = false := h.done_eq
    have hleft : Follows m (frames.map Frame.ancestor) (frames.map Frame.ancestor).isEmpty
        { r.locate close.location with
          frames, done := (r.locate close.location).done || frames.isEmpty }
        (p.locate close.location) :=
      ⟨rfl, hcov.2, hl.counted, hl.running, by simp [hd], hl.location⟩
    exact tracks_settle hpl hleft (by exact hl.location) _ _ _

/-! ### Trees -/

end

section

variable {B D : Type} {m : Machine B D}

mutual
theorem tracks_content : ∀ (c : Content) {above : List Ancestor} {r : Run} {p : Progress B D},
    Follows m above false r p → p.error = none →
    Tracks m above (above.isEmpty && c.isElement) (m.recorded.play c.events r p.log)
      (m.evaluate above c p)
  | .aside a, above, r, p, h, hp => by
    rw [Content.events, Machine.play_singleton, Machine.evaluate, Content.isElement, Bool.and_false]
    exact tracks_aside h hp a
  | .element e inside close, above, r, p, h, hp => by
    simp only [Content.events, Machine.play, Machine.evaluate, Content.isElement, Bool.and_true]
    refine (tracks_opening h hp e).andThen fun he hf => ?_
    rw [Machine.play_append]
    refine (tracks_contents inside hf he (List.cons_ne_nil _ _)).andThen fun he hf => ?_
    rw [Machine.play_singleton]
    exact tracks_closing hf he close

theorem tracks_contents : ∀ (cs : List Content) {above : List Ancestor} {r : Run}
    {p : Progress B D}, Follows m above false r p → p.error = none → above ≠ [] →
    Tracks m above false (m.recorded.play (Content.eventsAll cs) r p.log) (m.evaluateAll above cs p)
  | [], _, _, _, h, hp, _ => ⟨rfl, hp.symm, fun _ => h⟩
  | c :: cs, above, r, p, h, hp, ha => by
    have hc := tracks_content c h hp
    have he : above.isEmpty = false := List.isEmpty_eq_false_iff.2 ha
    rw [he, Bool.false_and] at hc
    simp only [Content.eventsAll, Machine.play_append, Machine.evaluateAll]
    exact hc.andThen fun hp hf => tracks_contents cs hf hp ha
end

/-- Text and declarations may stand outside all elements, before and after the document is done. -/
theorem tracks_asides (asides : List Aside) {above : List Ancestor} {done : Bool} {r : Run}
    {p : Progress B D} (h : Follows m above done r p) (hp : p.error = none) :
    Tracks m above done (m.recorded.play (Content.eventsAll (asides.map .aside)) r p.log)
      (m.evaluateAll above (asides.map .aside) p) := by
  induction asides generalizing r p with
  | nil => exact ⟨rfl, hp.symm, fun _ => h⟩
  | cons a asides ih =>
    simp only [List.map_cons, Content.eventsAll, Machine.play_append, Machine.evaluateAll]
    rw [Content.events, Machine.play_singleton, Machine.evaluate]
    exact (tracks_aside h hp a).andThen fun hp hf => ih hf hp

theorem evaluateAll_append (above : List Ancestor) (cs ds : List Content) {p : Progress B D}
    (hp : p.error = none) :
    m.evaluateAll above (cs ++ ds) p =
      (m.evaluateAll above cs p).unlessFailed (m.evaluateAll above ds) := by
  induction cs generalizing p with
  | nil => rw [List.nil_append, Machine.evaluateAll, Progress.unlessFailed_of_ok hp]
  | cons c cs ih =>
    simp only [List.cons_append, Machine.evaluateAll]
    cases he : (m.evaluate above c p).error with
    | some e => simp only [Progress.unlessFailed_of_error he]
    | none => simp only [Progress.unlessFailed_of_ok he, ih he]

theorem follows_start (m : Machine B D) (d : D) : Follows m [] false {} { data := d } where
  ancestors := rfl
  covered := trivial
  counted _ limit _ := by simp [Run.remainingIn]
  running := rfl
  done_eq := rfl
  location := rfl

theorem tracks_document (m : Machine B D) (doc : Document) (d : D) :
    Tracks m [] true (m.recorded.play doc.events {} (d, [])) (m.evaluateDocument doc d) := by
  have hp : ({ data := d } : Progress B D).error = none := rfl
  unfold Document.events Machine.evaluateDocument Document.contents
  rw [Content.eventsAll_append, Machine.play_append, evaluateAll_append _ _ _ hp]
  refine (tracks_asides doc.prolog (follows_start m d) hp).andThen fun hp hf => ?_
  rw [Content.eventsAll, Machine.play_append, Machine.evaluateAll]
  refine (tracks_content _ hf hp).andThen fun hp hf => ?_
  exact tracks_asides doc.epilog hf hp

end

/-- A fresh run over the events of a document leaves the data and the error of its evaluation, and
makes the same calls in the same order on the same data. -/
theorem Machine.play_document {B D : Type} (m : Machine B D) (doc : Document) (d : D) :
    (m.play doc.events {} d).data = (m.evaluateDocument doc d).data ∧
      (m.play doc.events {} d).error = (m.evaluateDocument doc d).error ∧
      (m.recorded.play doc.events {} (d, [])).data.2 = (m.evaluateDocument doc d).calls := by
  have ht := tracks_document m doc d
  rw [← m.play_recorded doc.events {} (d, [])]
  exact ⟨congrArg Prod.fst ht.data, ht.error, congrArg Prod.snd ht.data⟩

end StreamSelect
