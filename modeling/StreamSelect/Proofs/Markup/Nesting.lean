import StreamSelect.Markup.TextSource
import StreamSelect.Proofs.Run.Acceptance
import StreamSelect.Proofs.Session.Conversation

/-! The events of a text nest. An end tag repeats the innermost open tag as it is written, and is
read in the scope inside that tag, where it stands for the same name. -/
namespace StreamSelect.Markup.TextSource

/-- Open tags and the names they stand for, each resolved in the scope inside the tag. -/
inductive Opened : Scope → List (List Char × Scope) → List Name → Prop
  | nil {scope : Scope} : Opened scope [] []
  | cons {scope outer : Scope} {raw : List Char} {tags : List (List Char × Scope)} {name : Name}
    {names : List Name} (hname : (RawName.ofText raw).elementName scope = .ok name)
    (h : Opened outer tags names) : Opened scope ((raw, outer) :: tags) (name :: names)

/-- The names of the elements whose ends a source still has to give, innermost first. -/
def Holds (s : TextSource) (names : List Name) : Prop :=
  ∃ outer, names = s.pendingEnd.toList.map (·.name) ++ outer ∧ Opened s.scope s.openTags outer

theorem holds_ofText (text : String) (trimText : Bool) : (ofText text trimText).Holds [] :=
  ⟨[], rfl, .nil⟩

theorem mapError_eq_ok {ε ε' α : Type} {f : ε → ε'} {x : Except ε α} {a : α}
    (h : x.mapError f = .ok a) : x = .ok a := by
  cases x with
  | error e => cases h
  | ok found =>
    cases h
    rfl

theorem bind_eq_ok {ε α β : Type} {x : Except ε α} {f : α → Except ε β} {b : β}
    (h : (x >>= f) = .ok b) : ∃ a, x = .ok a ∧ f a = .ok b := by
  cases x with
  | error e => cases h
  | ok a => exact ⟨a, rfl, h⟩

/-- The name of an element is that of its tag in the scope inside it. -/
theorem name_of_startElement {scope inner : Scope} {content : TagContent} {l : Location}
    {e : StartElement} (h : startElement scope content l = .ok (e, inner)) :
    (RawName.ofText content.name).elementName inner = .ok e.name := by
  unfold startElement at h
  obtain ⟨inside, -, h⟩ := bind_eq_ok h
  obtain ⟨name, hname, h⟩ := bind_eq_ok h
  obtain ⟨attributes, -, h⟩ := bind_eq_ok h
  split at h
  · cases h
  · cases h
    exact mapError_eq_ok hname

/-- What holds of a source after an event, or after what gives none. -/
def Goes (names : List Name) (event? : Option Event) (next : TextSource) : Prop :=
  match event? with
  | none => next.pendingEnd = none ∧ Opened next.scope next.openTags names
  | some event => ∃ later, event.nest names = some later ∧ next.Holds later

theorem goes_of_take {s next : TextSource} {l : Location} {token : Token} {names : List Name}
    {event? : Option Event} (hpending : s.pendingEnd = none)
    (hopen : Opened s.scope s.openTags names) (h : s.take l token = .ok (event?, next)) :
    Goes names event? next := by
  have hsame : s.Holds names := ⟨names, by simp [hpending], hopen⟩
  cases token with
  | characters raw =>
    obtain ⟨text, -, h⟩ := bind_eq_ok h
    split at h
    · cases h
      exact ⟨hpending, hopen⟩
    · cases h
      exact ⟨names, rfl, hsame⟩
  | cdata raw =>
    cases h
    exact ⟨names, rfl, hsame⟩
  | doctype raw =>
    cases h
    exact ⟨names, rfl, hsame⟩
  | comment raw =>
    cases h
    exact ⟨hpending, hopen⟩
  | instruction raw =>
    cases h
    exact ⟨hpending, hopen⟩
  | startTag content =>
    obtain ⟨⟨element, inner⟩, helement, h⟩ := bind_eq_ok h
    cases h
    refine ⟨element.name :: names, rfl, element.name :: names, ?_, ?_⟩
    · simp [hpending]
    · exact .cons (name_of_startElement helement) hopen
  | emptyTag content =>
    obtain ⟨⟨element, inner⟩, helement, h⟩ := bind_eq_ok h
    cases h
    exact ⟨element.name :: names, rfl, names, rfl, hopen⟩
  | endTag found =>
    simp only [take] at h
    split at h
    · cases h
    · rename_i expected outer tags htags
      rw [htags] at hopen
      split at h
      · rename_i hsameTag
        subst hsameTag
        obtain ⟨name, hfound, h⟩ := bind_eq_ok h
        cases h
        cases hopen with
        | @cons _ _ _ _ started later hstarted hlater =>
          have hname : started = name := by
            rw [mapError_eq_ok hfound] at hstarted
            cases hstarted
            rfl
          subst hname
          refine ⟨later, by simp [Event.nest], later, ?_, hlater⟩
          simp [hpending]
      · cases h

/-- Moving to the next token leaves the open tags alone. -/
theorem ready_eq (s : TextSource) :
    s.locate.trimFront.pendingEnd = s.pendingEnd ∧ s.locate.trimFront.scope = s.scope ∧
      s.locate.trimFront.openTags = s.openTags := by
  unfold trimFront Tokenizer.trimFront
  split
  all_goals exact ⟨rfl, rfl, rfl⟩

/-- What a source reads nests with what it gave before. -/
theorem nest_of_readEvent {s next : TextSource} {event : Event} {names : List Name}
    (hpending : s.pendingEnd = none) (hopen : Opened s.scope s.openTags names)
    (h : s.readEvent = (.ok (some event), next)) :
    ∃ later, event.nest names = some later ∧ next.Holds later := by
  fun_induction readEvent s generalizing names
  case case1 => cases h
  case case2 => cases h
  case case3 => cases h
  case case4 s located location ready c text hrest lexeme hread after event next htake =>
    cases h
    obtain ⟨hfront, hscope, htags⟩ := s.ready_eq
    rw [← hfront] at hpending
    rw [← hscope, ← htags] at hopen
    have hafter : after.pendingEnd = none := hpending
    exact goes_of_take hafter hopen htake
  case case5 s located location ready c text hrest lexeme hread after next htake ih =>
    obtain ⟨hfront, hscope, htags⟩ := s.ready_eq
    rw [← hfront] at hpending
    rw [← hscope, ← htags] at hopen
    have hafter : after.pendingEnd = none := hpending
    obtain ⟨hnone, hnext⟩ := goes_of_take hafter hopen htake
    exact ih hnone hnext h

theorem next_of_finished {s : TextSource} (h : s.finished = true) : s.next = (none, s) := by
  rw [next, if_pos h]

/-- What gives no event finishes the source. -/
theorem finished_of_next {s next : TextSource} {item : Option (Except SourceError Event)}
    (h : s.next = (item, next)) (hitem : ∀ event, item ≠ some (.ok event)) :
    next.finished = true := by
  unfold TextSource.next at h
  split at h
  · rename_i hfinished
    cases h
    exact hfinished
  · split at h
    · cases h
      exact absurd rfl (hitem _)
    · split at h
      · cases h
        exact absurd rfl (hitem _)
      · cases h
        rfl
      · cases h
        rfl

/-- An event that a source gives nests with those before it. -/
theorem holds_of_next {s next : TextSource} {event : Event} {names : List Name}
    (hs : s.Holds names) (h : s.next = (some (.ok event), next)) :
    ∃ later, event.nest names = some later ∧ next.Holds later := by
  obtain ⟨outer, rfl, hopen⟩ := hs
  unfold TextSource.next at h
  split at h
  · cases h
  · split at h
    · rename_i e he
      cases h
      refine ⟨outer, ?_, outer, rfl, hopen⟩
      simp [Event.nest, he]
    · rename_i hpending
      rw [hpending, Option.toList_none, List.map_nil, List.nil_append]
      split at h
      · rename_i found next hread
        cases h
        exact nest_of_readEvent hpending hopen hread
      · cases h
      · cases h

/-! ### All events of a text -/

theorem poll_eq (s : TextSource) :
    events.poll s = (s.next.1.map (·.mapError SourceError.message), s.next.2) := by
  show s.poll = _
  unfold poll
  split
  all_goals
    rename_i h
    rw [h]
    rfl

theorem next_of_poll {s next : TextSource} {event : Event}
    (h : events.poll s = (some (.ok event), next)) : s.next = (some (.ok event), next) := by
  rw [poll_eq, Prod.mk.injEq, Option.map_eq_some_iff] at h
  obtain ⟨⟨item, hitem, hevent⟩, hnext⟩ := h
  rw [mapError_eq_ok hevent] at hitem
  exact Prod.ext hitem hnext

theorem poll_of_finished {s : TextSource} (h : s.finished = true) : events.poll s = (none, s) := by
  rw [poll_eq, next_of_finished h]
  rfl

theorem finished_of_poll {s next : TextSource} {item : Poll} (h : events.poll s = (item, next))
    (hitem : ∀ event, item ≠ some (.ok event)) : next.finished = true := by
  rw [poll_eq, Prod.mk.injEq] at h
  obtain ⟨hmap, rfl⟩ := h
  refine @finished_of_next s _ s.next.1 rfl fun event hevent => ?_
  rw [hevent] at hmap
  exact hitem event hmap.symm

/-- The events that a source gives nest with those it gave before. -/
theorem nest_script {s : TextSource} {names : List Name} (hs : s.Holds names) :
    ∃ later, (events.script s).events.foldlM Event.nest names = some later := by
  fun_induction events.script s generalizing names with
  | case1 s next h => exact ⟨names, rfl⟩
  | case2 s failure next h => exact ⟨names, rfl⟩
  | case3 s event next h ih =>
    obtain ⟨inner, hnest, hinner⟩ := holds_of_next hs (next_of_poll h)
    obtain ⟨later, hlater⟩ := ih hinner
    refine ⟨later, ?_⟩
    rw [Script.cons, List.foldlM_cons, hnest]
    exact hlater

theorem pollTimes_of_finished {s : TextSource} (h : s.finished = true) (n : Nat) :
    events.pollTimes n s = List.replicate n none := by
  induction n with
  | zero => rfl
  | succ n ih => rw [EventSource.pollTimes, poll_of_finished h, ih, List.replicate_succ]

/-- After its end or its first failure a source gives nothing for ever. -/
theorem pollTimes_eq (n : Nat) (s : TextSource) :
    events.pollTimes n s = ((events.script s).polls ++ List.replicate n none).take n := by
  induction n generalizing s with
  | zero => simp [EventSource.pollTimes]
  | succ n ih =>
    have hlast : ∀ {item : Poll} {next : TextSource}, events.poll s = (item, next) →
        (∀ event, item ≠ some (.ok event)) →
          events.pollTimes (n + 1) s = ([item] ++ List.replicate (n + 1) none).take (n + 1) := by
      intro item next hpoll hitem
      rw [EventSource.pollTimes, hpoll, pollTimes_of_finished (finished_of_poll hpoll hitem)]
      simp
    cases hpoll : events.poll s with
    | mk item next =>
      match item with
      | none =>
        rw [EventSource.script_of_none hpoll]
        exact hlast hpoll nofun
      | some (.error failure) =>
        rw [EventSource.script_of_failure hpoll]
        exact hlast hpoll nofun
      | some (.ok event) =>
        have hlength : n ≤ ((events.script next).polls ++ List.replicate n none).length := by
          rw [List.length_append, List.length_replicate]
          omega
        have hpadded : ((events.script next).polls ++ List.replicate (n + 1) none).take n =
            ((events.script next).polls ++ List.replicate n none).take n := by
          rw [List.replicate_succ', ← List.append_assoc]
          exact List.take_append_of_le_length hlength
        rw [EventSource.script_of_event hpoll, EventSource.pollTimes, hpoll, ih, ← hpadded]
        rfl

end StreamSelect.Markup.TextSource

namespace StreamSelect.Conversation

variable {B D σ : Type} {src : EventSource σ}

/-- A session over events that nest keeps the open elements, unless it has failed, and never meets
an end with nothing open. -/
def Nests (sc : Script) (c : Conversation (σ × List Poll) D) : Prop :=
  (c.session.run.poisoned = true ∨
    openElements (sc.events.take c.results.length) = some c.session.run.openNames) ∧
  ∀ name location, .error ⟨.protocol (.nothingOpen name), location⟩ ∉ c.results

theorem nests_ask {m : Machine B D} {sc : Script} {names : List Name}
    {c : Conversation (σ × List Poll) D} (hopen : openElements sc.events = some names)
    (hreads : c.session.Reads src sc c.results.length) (h : Nests sc c) (request : Request) :
    Nests sc (c.ask m src.recorded request) := by
  obtain ⟨hrun, hresults⟩ := h
  cases request with
  | look =>
    have hsame : (c.ask m src.recorded .look).session.run = c.session.run := hreads.peek.2.1
    rw [Nests, results_ask_look, hsame]
    exact ⟨hrun, hresults⟩
  | take =>
    obtain ⟨-, htakes⟩ := hreads.advance m c.data
    have hask : (c.ask m src.recorded .take).session =
      (c.session.advance m src.recorded c.data).session := rfl
    rw [Nests, results_ask_take, hask, List.length_append, List.length_singleton]
    simp only [List.mem_append, List.mem_singleton, not_or]
    have hbeyond : sc.events.length ≤ c.results.length →
        sc.events.take (c.results.length + 1) = sc.events.take c.results.length := by
      intro hle
      rw [List.take_of_length_le hle, List.take_of_length_le (Nat.le_succ_of_le hle)]
    cases htakes with
    | event hn hrun' hdata hresult =>
      rw [hrun', hresult]
      rcases hrun with hpoisoned | hnames
      · rw [Machine.step_of_poisoned hpoisoned]
        exact ⟨.inl rfl, fun name location => ⟨hresults name location, nofun⟩⟩
      · obtain ⟨later, hlater⟩ := openElements_of_prefix
          (List.take_prefix (c.results.length + 1) sc.events) hopen
        have hnest : Event.nest c.session.run.openNames sc.events[c.results.length] = some later := by
          rw [List.take_succ_eq_append_getElem hn, openElements_concat, hnames] at hlater
          exact hlater
        cases he : (m.step c.session.run sc.events[c.results.length] c.data).error with
        | none =>
          refine ⟨.inr ?_, fun name location => ⟨hresults name location, nofun⟩⟩
          rw [hlater, Machine.openNames_step hnest he]
        | some e =>
          refine ⟨.inl ?_, fun name location => ⟨hresults name location, ?_⟩⟩
          · rw [Machine.poisoned_step, he]
            rfl
          · intro heq
            apply Machine.not_nothingOpen_step (m := m) (d := c.data) hnest name
            rw [Reply.cause?, he, ← Except.error.inj heq]
            rfl
    | failure hn hfailure hrun' hdata hresult =>
      rw [hrun', hresult, hbeyond (Nat.le_of_eq hn.symm)]
      exact ⟨hrun, fun name location => ⟨hresults name location, nofun⟩⟩
    | nothing hn hrun' hdata hresult =>
      rw [hrun', hresult, hbeyond (Nat.le_of_add_right_le hn)]
      exact ⟨hrun, fun name location => ⟨hresults name location, nofun⟩⟩

/-- No session over events that nest meets an end with nothing open. -/
theorem nothingOpen_not_mem_results {m : Machine B D} {s : σ} {names : List Name}
    (hopen : openElements (src.script s).events = some names) (d : D) (requests : List Request)
    (name : Name) (location : Option Location) :
    .error ⟨.protocol (.nothingOpen name), location⟩ ∉
      ((⟨Parser.start s, d, []⟩ : Conversation σ D).asks m src requests).results := by
  have hforget : ((fresh s d).asks m src.recorded requests).forget =
      (⟨Parser.start s, d, []⟩ : Conversation σ D).asks m src requests := forget_asks _ requests
  have hboth : ((fresh s d).asks m src.recorded requests).session.Reads src (src.script s)
        ((fresh s d).asks m src.recorded requests).results.length ∧
      Nests (src.script s) ((fresh s d).asks m src.recorded requests) := by
    apply asks_invariant
      (P := fun c => c.session.Reads src (src.script s) c.results.length ∧ Nests (src.script s) c)
    · rintro c request ⟨hreads, hnests⟩
      exact ⟨reads_ask hreads request, nests_ask hopen hreads hnests request⟩
    · exact ⟨.ready (Nat.zero_le _) rfl, .inr rfl, nofun⟩
  rw [← hforget]
  exact hboth.2.2 name location

end StreamSelect.Conversation

namespace StreamSelect.Markup.TextSource

/-- The events of a text nest: every end has the whole name of the innermost element open. After its
end or its first failure the source gives nothing for ever. So no run over a text, and no session,
meets an end with nothing open. -/
theorem events_nest {B D : Type} (m : Machine B D) (text : String) (trimText : Bool) (d : D) :
    (∃ names, openElements (events.script (ofText text trimText)).events = some names) ∧
    (∀ n, events.pollTimes n (ofText text trimText) =
      ((events.script (ofText text trimText)).polls ++ List.replicate n none).take n) ∧
    (∀ name, (m.consume events (ofText text trimText) {} d).cause? ≠
      some (.protocol (.nothingOpen name))) ∧
    ∀ requests name location, .error ⟨.protocol (.nothingOpen name), location⟩ ∉
      ((⟨Parser.start (ofText text trimText), d, []⟩ : Conversation TextSource D).asks
        m events requests).results := by
  obtain ⟨names, hopen⟩ := nest_script (holds_ofText text trimText)
  refine ⟨⟨names, hopen⟩, fun n => pollTimes_eq n _, fun name => ?_, fun requests => ?_⟩
  · show (m.drain events (ofText text trimText) {} d).cause? ≠ _
    obtain ⟨hplay, -⟩ := Machine.play_open (m := m) (r := {}) hopen d
    rw [Machine.drain_eq_play]
    cases he : (m.play (events.script (ofText text trimText)).events {} d).error with
    | some e =>
      rw [Reply.andThen_of_error he]
      exact hplay name
    | none =>
      rw [Reply.andThen_of_ok he]
      cases (events.script (ofText text trimText)).failure with
      | none => nofun
      | some failure => nofun
  · exact Conversation.nothingOpen_not_mem_results hopen d requests

end StreamSelect.Markup.TextSource
