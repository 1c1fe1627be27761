import StreamSelect.Proofs.Session.Conversation

/-! Sessions and runs agree. However a caller looks and takes, the takes give the events of the source
in order up to the first error, and a caller who stops there, or when there is no more, has what a
run over the whole source leaves. -/
namespace StreamSelect

variable {B D σ : Type}

/-- An answer after which the source is never asked again: that there is no more, or a failure of
the source. -/
def Response.Ends : Response → Prop
  | .more available => available = false
  | .taken (.ok _) => False
  | .taken (.error e) => (∃ failure, e.cause = .source failure) ∨ e.cause = .protocol .noMoreEvents

namespace Machine

variable {m : Machine B D}

/-- One more event is one more step, unless an earlier one failed. -/
theorem play_take_succ (m : Machine B D) {events : List Event} {n : Nat} (hn : n < events.length)
    (r : Run) (d : D) :
    m.play (events.take (n + 1)) r d =
      (m.play (events.take n) r d).andThen fun r d => m.step r events[n] d := by
  rw [List.take_succ_eq_append_getElem hn, play_append]
  congr 1
  funext r d
  exact m.play_singleton _ r d

/-- A run that fails on the first events fails the same on all of them. -/
theorem play_of_take_error {events : List Event} {n : Nat} {r : Run} {d : D} {e : Error}
    (h : (m.play (events.take n) r d).error = some e) :
    m.play events r d = m.play (events.take n) r d := by
  rw [← List.take_append_drop n events, play_append, List.take_append_drop,
    Reply.andThen_of_error h]

/-- An event never fails as the source or for want of events. -/
theorem not_ends_of_step {r : Run} {event : Event} {d : D} {e : Error}
    (h : (m.step r event d).error = some e) : ¬(Response.taken (.error e)).Ends := by
  have hcause : (m.step r event d).cause? = some e.cause := by simp [Reply.cause?, h]
  intro hends
  rcases cause?_step hcause with h | ⟨start, -, h⟩ | ⟨finish, -, -, h⟩ | ⟨message, h⟩
  · simp [Response.Ends, h] at hends
  · rcases enter_eq_error h with h | ⟨limit, h⟩ | ⟨limit, h⟩
    all_goals simp [Response.Ends, h] at hends
  · simp [Response.Ends, h] at hends
  · simp [Response.Ends, h] at hends

end Machine

namespace Conversation

/-! ### After the end -/

/-- How a session answers that has ended. -/
def refusal (c : Conversation σ D) : Request → Response
  | .look => .more false
  | .take => .taken (.error ⟨.protocol .noMoreEvents, c.session.run.location⟩)

def Over (c : Conversation σ D) : Prop := c.session.pending = none ∧ c.session.exhausted = true

variable {m : Machine B D} {src : EventSource σ}

theorem Over.ask {c : Conversation σ D} (h : c.Over) (request : Request) :
    c.ask m src request = { c with responses := c.responses ++ [c.refusal request] } := by
  obtain ⟨⟨run, t, pending, exhausted⟩, d, responses⟩ := c
  obtain ⟨rfl, rfl⟩ : pending = none ∧ exhausted = true := h
  cases request <;> rfl

/-- An ended session refuses all requests and stays as it is. -/
theorem Over.asks {c : Conversation σ D} (h : c.Over) (later : List Request) :
    c.asks m src later = { c with responses := c.responses ++ later.map c.refusal } := by
  induction later generalizing c with
  | nil => simp [Conversation.asks]
  | cons request later ih =>
    rw [Conversation.asks, List.foldl_cons, h.ask request]
    have hnext : Over { c with responses := c.responses ++ [c.refusal request] } := h
    have hlater := ih hnext
    rw [Conversation.asks] at hlater
    rw [hlater]
    simp only [List.append_assoc, List.map_cons, List.singleton_append, Conversation.mk.injEq,
      true_and]
    rfl

/-- What is neither held nor to be had. -/
theorem exhausted_peek {s : Session σ} (h : (s.peek src).pending = none) :
    (s.peek src).exhausted = true := by
  unfold Session.peek at *
  split
  · rename_i hlooked
    rw [if_pos hlooked] at h
    simpa [h] using hlooked
  · rename_i hlooked
    rw [if_neg hlooked] at h
    dsimp only at h ⊢
    rw [h]
    rfl

/-- One of the answers ended the session. -/
theorem over_ask_of_ends {c : Conversation σ D} {request : Request} {last : Response}
    (hlast : (c.ask m src request).responses = c.responses ++ [last]) (hends : last.Ends) :
    (c.ask m src request).Over := by
  cases request with
  | look =>
    obtain rfl : Response.more (c.session.hasMore src) = last := by simpa [ask] using hlast
    have hnone : (c.session.peek src).pending = none := by
      simpa [Response.Ends, Session.hasMore] using hends
    exact ⟨hnone, exhausted_peek hnone⟩
  | take =>
    obtain rfl : Response.taken (c.session.advance m src c.data).result = last := by
      simpa [ask] using hlast
    unfold Session.advance at hends
    simp only [ask, Over, Session.advance]
    cases hpending : (c.session.peek src).pending with
    | none => exact ⟨hpending, exhausted_peek hpending⟩
    | some item =>
      cases item with
      | error failure => exact ⟨rfl, rfl⟩
      | ok event =>
        simp only [hpending] at hends
        cases he : (m.step (c.session.peek src).run event c.data).error with
        | none => simp [Response.Ends, he] at hends
        | some e =>
          simp only [he] at hends
          exact absurd hends (Machine.not_ends_of_step he)

theorem responses_ask (m : Machine B D) (src : EventSource σ) (c : Conversation σ D)
    (request : Request) :
    ∃ last, (c.ask m src request).responses = c.responses ++ [last] := by
  cases request <;> exact ⟨_, rfl⟩

theorem over_of_ends {c : Conversation σ D} (h : c.responses = []) (requests : List Request)
    (hends : ∃ answer ∈ (c.asks m src requests).responses, answer.Ends) :
    (c.asks m src requests).Over := by
  revert hends
  apply asks_invariant (P := fun c => (∃ answer ∈ c.responses, answer.Ends) → c.Over)
  · rintro c request ih ⟨answer, hmem, hends⟩
    obtain ⟨last, hlast⟩ := responses_ask m src c request
    rw [hlast, List.mem_append, List.mem_singleton] at hmem
    rcases hmem with hmem | rfl
    · have hover := ih ⟨answer, hmem, hends⟩
      rw [hover.ask]
      exact hover
    · exact over_ask_of_ends hlast hends
  · rintro ⟨answer, hmem, -⟩
    rw [h] at hmem
    cases hmem

/-! ### Before the first error -/

/-- No error so far: the run has played the events taken, and they all came back. -/
structure Level (m : Machine B D) (sc : Script) (d : D) (c : Conversation σ D) (n : Nat) :
    Prop where
  bound : n ≤ sc.events.length
  results : c.results = (sc.events.take n).map .ok
  ok : (m.play (sc.events.take n) {} d).error = none
  run : (m.play (sc.events.take n) {} d).run = c.session.run
  data : (m.play (sc.events.take n) {} d).data = c.data

/-- After an error only errors come back. -/
structure Broken (m : Machine B D) (sc : Script) (d : D) (c : Conversation σ D) (k : Nat)
    (failures : List (Except Error Event)) : Prop where
  bound : k ≤ sc.events.length
  results : c.results = (sc.events.take k).map .ok ++ failures
  nonempty : failures ≠ []
  errors : ∀ result ∈ failures, ∃ e, result = .error e
  reason : k = sc.events.length ∨ (m.play (sc.events.take (k + 1)) {} d).error.isSome
  stays : c.session.run.poisoned = true ∨ sc.items ≤ c.results.length

variable {sc : Script} {d : D} {n : Nat}

theorem Level.length_results {c : Conversation σ D} (h : c.Level m sc d n) :
    c.results.length = n := by
  rw [h.results, List.length_map, List.length_take]
  have hbound := h.bound
  omega

/-- A run over the script, from the start to its end or its failure. -/
def reference (m : Machine B D) (sc : Script) (d : D) : Reply D :=
  (m.play sc.events {} d).andThen (Machine.conclude sc.failure)

/-- What an error says of the run: nothing, if the caller asked for an event that is not there. -/
def verdict (e : Error) : Option Error :=
  if e.cause = .protocol .noMoreEvents then none else some e

/-- A caller who has stopped is where a run over the source ends. -/
structure Agrees (m : Machine B D) (reply : Reply D) (c : Conversation σ D)
    (outcome : Option Error) : Prop where
  error : reply.error = outcome
  data : reply.data = c.data
  depth : reply.run.depth = c.session.run.depth
  current : m.current reply.run = m.current c.session.run
  done : reply.run.done = c.session.run.done

theorem Level.play_next {c : Conversation σ D} (h : c.Level m sc d n) (hn : n < sc.events.length) :
    ∃ notes, m.play (sc.events.take (n + 1)) {} d =
      { m.step c.session.run sc.events[n] c.data with notes } := by
  rw [m.play_take_succ hn, Reply.andThen_of_ok h.ok, h.run, h.data]
  exact ⟨_, rfl⟩

/-- Once all events are taken, a run over the script ends with the failure of the source, if any. -/
theorem Level.agrees {c stopped : Conversation σ D} (h : c.Level m sc d sc.events.length)
    (hrun : stopped.session.run = c.session.run) (hdata : stopped.data = c.data) :
    Agrees m (reference m sc d) stopped (sc.failure.map fun failure => { cause := .source failure }) := by
  have hok := h.ok
  have hran := h.run
  have hleft := h.data
  rw [List.take_length] at hok hran hleft
  have hreference : reference m sc d = { Machine.conclude sc.failure c.session.run c.data with
      notes := (m.play sc.events {} d).notes ++
        (Machine.conclude sc.failure c.session.run c.data).notes } := by
    rw [reference, Reply.andThen_of_ok hok, hran, hleft]
  rw [hreference]
  cases sc.failure with
  | none => exact ⟨rfl, hdata.symm, by rw [hrun]; rfl, by rw [hrun]; rfl, by rw [hrun]; rfl⟩
  | some failure => exact ⟨rfl, hdata.symm, by rw [hrun]; rfl, by rw [hrun]; rfl, by rw [hrun]; rfl⟩

/-- A take goes on to the next event, or its error is that of a run over the script. -/
theorem Level.take {c : Conversation (σ × List Poll) D} (h : c.Level m sc d n)
    (hreads : c.session.Reads src sc n) :
    (c.ask m src.recorded .take).Level m sc d (n + 1) ∨
      ∃ e, (c.session.advance m src.recorded c.data).result = .error e ∧
        (c.ask m src.recorded .take).Broken m sc d n [.error e] ∧
        Agrees m (reference m sc d) (c.ask m src.recorded .take) (verdict e) := by
  have hbound := h.bound
  have hlength := h.length_results
  have hresults := results_ask_take m src.recorded c
  obtain ⟨-, htakes⟩ := hreads.advance m c.data
  cases htakes with
  | event hn hrun hdata hresult =>
    obtain ⟨notes, hnext⟩ := h.play_next hn
    cases he : (m.step c.session.run sc.events[n] c.data).error with
    | none =>
      rw [he] at hresult
      refine .inl ⟨hn, ?_, ?_, ?_, ?_⟩
      · rw [hresults, h.results, hresult, List.take_succ_eq_append_getElem hn, List.map_append]
        rfl
      · rw [hnext]
        exact he
      · rw [hnext]
        exact hrun.symm
      · rw [hnext]
        exact hdata.symm
    | some e =>
      rw [he] at hresult
      have hfails : (m.play (sc.events.take (n + 1)) {} d).error = some e := by rw [hnext, he]
      have hcause : ¬e.cause = .protocol .noMoreEvents := fun hc =>
        Machine.not_ends_of_step he (.inr hc)
      refine .inr ⟨e, hresult, ⟨h.bound, ?_, by simp, by simp, ?_, .inl ?_⟩, ?_⟩
      · rw [hresults, h.results, hresult]
      · exact .inr (by rw [hfails]; rfl)
      · show (c.session.advance m src.recorded c.data).session.run.poisoned = true
        rw [hrun, Machine.poisoned_step, he]
        rfl
      · have hreference : reference m sc d =
            { m.step c.session.run sc.events[n] c.data with notes } := by
          rw [reference, Machine.play_of_take_error hfails, Reply.andThen_of_error hfails, hnext]
        rw [hreference]
        refine ⟨?_, hdata.symm, ?_, ?_, ?_⟩
        · rw [verdict, if_neg hcause]
          exact he
        all_goals
          simp only [ask]
          rw [hrun]
  | failure hn hfailure hrun hdata hresult =>
    subst hn
    have hagrees : Agrees m (reference m sc d) (c.ask m src.recorded .take) _ :=
      h.agrees hrun hdata
    rw [hfailure] at hagrees
    refine .inr ⟨_, hresult, ⟨h.bound, ?_, by simp, by simp, .inl rfl, .inr ?_⟩, hagrees⟩
    · rw [hresults, h.results, hresult]
    · rw [hresults, List.length_append, hlength]
      simp [Script.items, hfailure]
  | nothing hn hrun hdata hresult =>
    obtain ⟨rfl, hfailure⟩ := Script.eq_of_items_le hn h.bound
    have hagrees : Agrees m (reference m sc d) (c.ask m src.recorded .take) _ :=
      h.agrees hrun hdata
    rw [hfailure] at hagrees
    refine .inr ⟨_, hresult, ⟨h.bound, ?_, by simp, by simp, .inl rfl, .inr ?_⟩, hagrees⟩
    · rw [hresults, h.results, hresult]
    · rw [hresults, List.length_append, hlength]
      omega

/-- Where a caller learns that there is no more, a run over the script has ended well. -/
theorem Level.look {c : Conversation (σ × List Poll) D} (h : c.Level m sc d n)
    (hreads : c.session.Reads src sc n) (hmore : c.session.hasMore src.recorded = false) :
    Agrees m (reference m sc d) (c.ask m src.recorded .look) none := by
  have hn : sc.items ≤ n := by
    have hiff := hreads.hasMore_iff
    rw [hmore] at hiff
    simpa using hiff
  obtain ⟨rfl, hfailure⟩ := Script.eq_of_items_le hn h.bound
  have hagrees : Agrees m (reference m sc d) (c.ask m src.recorded .look) _ :=
      h.agrees hreads.peek.2.1 rfl
  rwa [hfailure] at hagrees

/-- Nothing comes back any more. -/
theorem Broken.ask {c : Conversation (σ × List Poll) D} {k : Nat}
    {failures : List (Except Error Event)} (h : c.Broken m sc d k failures)
    (hreads : c.session.Reads src sc c.results.length) (request : Request) :
    ∃ failures, (c.ask m src.recorded request).Broken m sc d k failures := by
  cases request with
  | look =>
    refine ⟨failures, h.bound, ?_, h.nonempty, h.errors, h.reason, ?_⟩
    · rw [results_ask_look, h.results]
    · rw [results_ask_look, show (c.ask m src.recorded .look).session.run = c.session.run from
        hreads.peek.2.1]
      exact h.stays
  | take =>
    have hresults := results_ask_take m src.recorded c
    obtain ⟨-, htakes⟩ := hreads.advance m c.data
    obtain ⟨e, he, hstays⟩ : ∃ e, (c.session.advance m src.recorded c.data).result = .error e ∧
        ((c.ask m src.recorded .take).session.run.poisoned = true ∨
          sc.items ≤ c.results.length + 1) := by
      cases htakes with
      | event hn hrun hdata hresult =>
        have hpoisoned : c.session.run.poisoned = true := by
          rcases h.stays with hpoisoned | hitems
          · exact hpoisoned
          · unfold Script.items at hitems
            omega
        rw [Machine.step_of_poisoned hpoisoned] at hresult hrun
        exact ⟨_, hresult, .inl (congrArg Run.poisoned hrun)⟩
      | failure hn hfailure hrun hdata hresult =>
        refine ⟨_, hresult, .inr ?_⟩
        simp [Script.items, hfailure, hn]
      | nothing hn hrun hdata hresult => exact ⟨_, hresult, .inr (by omega)⟩
    refine ⟨failures ++ [.error e], h.bound, ?_, by simp, ?_, h.reason, ?_⟩
    · rw [hresults, h.results, he, List.append_assoc]
    · intro result hmem
      rw [List.mem_append, List.mem_singleton] at hmem
      rcases hmem with hmem | rfl
      · exact h.errors result hmem
      · exact ⟨e, rfl⟩
    · rw [hresults, List.length_append, List.length_singleton]
      exact hstays

/-- What a conversation with a fresh session is like. -/
def Known (m : Machine B D) (sc : Script) (d : D) (c : Conversation σ D) : Prop :=
  (∃ n, c.Level m sc d n) ∨ ∃ k failures, c.Broken m sc d k failures

theorem Level.ask_look {c : Conversation (σ × List Poll) D} (h : c.Level m sc d n)
    (hreads : c.session.Reads src sc n) : (c.ask m src.recorded .look).Level m sc d n := by
  refine ⟨h.bound, ?_, h.ok, ?_, h.data⟩
  · rw [results_ask_look, h.results]
  · rw [h.run]
    exact hreads.peek.2.1.symm

theorem level_fresh (m : Machine B D) (sc : Script) (s : σ) (d : D) :
    (fresh s d).Level m sc d 0 :=
  ⟨Nat.zero_le _, rfl, rfl, rfl, rfl⟩

theorem known_asks (m : Machine B D) (src : EventSource σ) (s : σ) (d : D)
    (requests : List Request) :
    Known m (src.script s) d ((fresh s d).asks m src.recorded requests) := by
  have hboth : ((fresh s d).asks m src.recorded requests).session.Reads src (src.script s)
        ((fresh s d).asks m src.recorded requests).results.length ∧
      Known m (src.script s) d ((fresh s d).asks m src.recorded requests) := by
    apply asks_invariant
      (P := fun c => c.session.Reads src (src.script s) c.results.length ∧
        Known m (src.script s) d c)
    · rintro c request ⟨hreads, ⟨n, hlevel⟩ | ⟨k, failures, hbroken⟩⟩
      · refine ⟨reads_ask hreads request, ?_⟩
        rw [hlevel.length_results] at hreads
        cases request with
        | look => exact .inl ⟨n, hlevel.ask_look hreads⟩
        | take =>
          rcases hlevel.take hreads with hnext | ⟨e, -, hbroken, -⟩
          · exact .inl ⟨n + 1, hnext⟩
          · exact .inr ⟨n, _, hbroken⟩
      · exact ⟨reads_ask hreads request, .inr ⟨k, hbroken.ask hreads request⟩⟩
    · exact ⟨.ready (Nat.zero_le _) rfl, .inl ⟨0, level_fresh m _ s d⟩⟩
  exact hboth.2

/-- The answers to a caller who stops at the first error, or on learning that there is no more; and
what they say of the run. -/
inductive Driven : List Response → Option Error → Prop
  | ended {before : List Response} (h : ∀ e, .taken (.error e) ∉ before) :
    Driven (before ++ [.more false]) none
  | failed {before : List Response} {e : Error} (h : ∀ e, .taken (.error e) ∉ before) :
    Driven (before ++ [.taken (.error e)]) (verdict e)

theorem Driven.ne_nil {answers : List Response} {outcome : Option Error}
    (h : Driven answers outcome) : answers ≠ [] := by
  cases h
  all_goals simp

theorem mem_results {c : Conversation σ D} {result : Except Error Event} :
    result ∈ c.results ↔ .taken result ∈ c.responses := by
  constructor
  · intro h
    obtain ⟨response, hresponse, heq⟩ := List.mem_filterMap.1 h
    cases response with
    | more available => cases heq
    | taken found =>
      obtain rfl : found = result := Option.some.inj heq
      exact hresponse
  · intro h
    exact List.mem_filterMap.2 ⟨_, h, rfl⟩

theorem Level.no_error {c : Conversation σ D} (h : c.Level m sc d n) (e : Error) :
    .taken (.error e) ∉ c.responses := by
  rw [← mem_results, h.results]
  intro hmem
  obtain ⟨event, -, hevent⟩ := List.mem_map.1 hmem
  cases hevent

theorem Known.level {c : Conversation σ D} (h : Known m sc d c)
    (hok : ∀ e, .taken (.error e) ∉ c.responses) : ∃ n, c.Level m sc d n := by
  rcases h with hlevel | ⟨k, failures, hbroken⟩
  · exact hlevel
  · exfalso
    obtain ⟨result, hmem⟩ := List.exists_mem_of_ne_nil failures hbroken.nonempty
    obtain ⟨e, rfl⟩ := hbroken.errors result hmem
    apply hok e
    rw [← mem_results, hbroken.results]
    exact List.mem_append_right _ hmem

theorem agrees_of_driven (s : σ) (d : D) (requests : List Request) {outcome : Option Error}
    (h : Driven ((fresh s d).asks m src.recorded requests).responses outcome) :
    Agrees m (reference m (src.script s) d) ((fresh s d).asks m src.recorded requests) outcome := by
  rcases List.eq_nil_or_concat requests with rfl | ⟨first, request, rfl⟩
  · exact absurd rfl h.ne_nil
  · have hreads := reads_asks m src s d first
    have hknown := known_asks m src s d first
    rw [List.concat_eq_append, asks_append] at h ⊢
    generalize (fresh s d).asks m src.recorded first = c at h hreads hknown ⊢
    change Driven (c.ask m src.recorded request).responses outcome at h
    show Agrees m _ (c.ask m src.recorded request) outcome
    generalize hresponses : (c.ask m src.recorded request).responses = responses at h
    cases h with
    | @ended before hok =>
      cases request with
      | look =>
        obtain ⟨rfl, hlast⟩ := List.append_inj' hresponses rfl
        obtain ⟨n, hlevel⟩ := hknown.level hok
        rw [hlevel.length_results] at hreads
        simp only [List.cons.injEq, Response.more.injEq, and_true] at hlast
        exact hlevel.look hreads hlast
      | take =>
        obtain ⟨-, hlast⟩ := List.append_inj' hresponses rfl
        simp at hlast
    | @failed before e hok =>
      cases request with
      | look =>
        obtain ⟨-, hlast⟩ := List.append_inj' hresponses rfl
        simp at hlast
      | take =>
        obtain ⟨rfl, hlast⟩ := List.append_inj' hresponses rfl
        obtain ⟨n, hlevel⟩ := hknown.level hok
        rw [hlevel.length_results] at hreads
        simp only [List.cons.injEq, Response.taken.injEq, and_true] at hlast
        rcases hlevel.take hreads with hnext | ⟨found, hfound, -, hagrees⟩
        · exfalso
          apply hnext.no_error e
          rw [hresponses]
          simp
        · rw [hlast, Except.error.injEq] at hfound
          rwa [hfound]

/-! ### The usual caller -/

/-- Looks before every take, a number of times. -/
def loop (rounds : Nat) : List Request := (List.replicate rounds [.look, .take]).flatten

theorem Level.exists_driven {c : Conversation (σ × List Poll) D} {gap : Nat}
    (h : c.Level m sc d n) (hreads : c.session.Reads src sc n) (hgap : sc.events.length < n + gap) :
    ∃ rounds outcome, Driven (c.asks m src.recorded (loop rounds)).responses outcome ∨
      Driven (c.asks m src.recorded (loop rounds ++ [.look])).responses outcome := by
  induction gap generalizing n c with
  | zero =>
    have hbound := h.bound
    omega
  | succ gap ih =>
    cases hmore : c.session.hasMore src.recorded with
    | false =>
      refine ⟨0, none, .inr ?_⟩
      show Driven (c.responses ++ [.more (c.session.hasMore src.recorded)]) none
      rw [hmore]
      exact .ended h.no_error
    | true =>
      have hlook := h.ask_look hreads
      have hplace : (c.ask m src.recorded .look).session.Reads src sc n := hreads.peek.1
      rcases hlook.take hplace with hnext | ⟨e, he, -, -⟩
      · obtain ⟨rounds, outcome, hdriven⟩ := ih hnext (hplace.advance m c.data).1 (by omega)
        exact ⟨rounds + 1, outcome, hdriven⟩
      · refine ⟨1, verdict e, .inl ?_⟩
        show Driven ((c.ask m src.recorded .look).responses ++
          [.taken ((c.ask m src.recorded .look).session.advance m src.recorded c.data).result]) _
        have he' : ((c.ask m src.recorded .look).session.advance m src.recorded c.data).result =
          .error e := he
        rw [he']
        exact .failed hlook.no_error

/-! ### Sessions of a parser -/

/-- How a session stands to its source and to a run over the whole source. -/
structure Faithful (p : Parser B D) (src : EventSource σ) (s : σ) (d : D)
    (c : Conversation (σ × List Poll) D) : Prop where
  /-- The events of the source come back in order; after the first that fails only errors do. -/
  returned : ∃ k failures, k ≤ (src.script s).events.length ∧
    c.results = ((src.script s).events.take k).map .ok ++ failures ∧
      (∀ result ∈ failures, ∃ e, result = .error e) ∧
        (failures = [] ∨ k = (src.script s).events.length ∨
          (p.machine.play ((src.script s).events.take (k + 1)) {} d).error.isSome)
  /-- The source is polled up to its end or its first failure, once for each take and at most once
  more. -/
  polls : c.polled <+: (src.script s).polls ∧
    min c.results.length (src.script s).polls.length ≤ c.polled.length ∧
      c.polled.length ≤ c.results.length + 1
  /-- Looking changes neither the data nor the run. -/
  look : (c.ask p.machine src.recorded .look).data = c.data ∧
    (c.ask p.machine src.recorded .look).session.run = c.session.run
  /-- A session that has ended refuses all requests, and polls nothing. -/
  ended : (∃ answer ∈ c.responses, answer.Ends) → ∀ later,
    c.asks p.machine src.recorded later = { c with responses := c.responses ++ later.map c.refusal }
  /-- A caller who stopped at the first error, or at the end, is where a whole run ends. -/
  agrees : ∀ outcome, Driven c.responses outcome → Agrees p.machine (p.parse src s d) c outcome

theorem Known.returned {c : Conversation σ D} (h : Known m sc d c) :
    ∃ k failures, k ≤ sc.events.length ∧ c.results = (sc.events.take k).map .ok ++ failures ∧
      (∀ result ∈ failures, ∃ e, result = .error e) ∧
        (failures = [] ∨ k = sc.events.length ∨
          (m.play (sc.events.take (k + 1)) {} d).error.isSome) := by
  rcases h with ⟨n, hlevel⟩ | ⟨k, failures, hbroken⟩
  · refine ⟨n, [], hlevel.bound, ?_, by simp, .inl rfl⟩
    rw [hlevel.results, List.append_nil]
  · exact ⟨k, failures, hbroken.bound, hbroken.results, hbroken.errors, .inr hbroken.reason⟩

theorem faithful_asks (p : Parser B D) (src : EventSource σ) (s : σ) (d : D)
    (requests : List Request) :
    Faithful p src s d ((fresh s d).asks p.machine src.recorded requests) where
  returned := (known_asks p.machine src s d requests).returned
  polls := (reads_asks p.machine src s d requests).polled
  look := ⟨rfl, (reads_asks p.machine src s d requests).peek.2.1⟩
  ended := fun hends later => (over_of_ends rfl requests hends).asks later
  agrees := fun outcome hdriven => by
    obtain ⟨herror, hdata, hdepth, hcurrent, hdone⟩ := agrees_of_driven s d requests hdriven
    unfold reference at herror hdata hdepth hcurrent hdone
    rw [← Machine.drain_eq_play] at herror hdata hdepth hcurrent hdone
    exact ⟨herror, hdata, hdepth, hcurrent, hdone⟩

end Conversation

/-- However a caller looks and takes, a session is faithful to its source and agrees with a run over
the whole of it; and a caller who looks before every take comes to a stop. -/
theorem Parser.session_agrees (p : Parser B D) (src : EventSource σ) (s : σ) (d : D) :
    (∀ requests, Conversation.Faithful p src s d
      ((Conversation.fresh s d).asks p.machine src.recorded requests)) ∧
    (∀ requests, ((Conversation.fresh s d).asks p.machine src.recorded requests).forget =
      (⟨Parser.start s, d, []⟩ : Conversation σ D).asks p.machine src requests) ∧
    ∃ rounds outcome,
      Conversation.Driven ((Conversation.fresh s d).asks p.machine src.recorded
        (Conversation.loop rounds)).responses outcome ∨
      Conversation.Driven ((Conversation.fresh s d).asks p.machine src.recorded
        (Conversation.loop rounds ++ [.look])).responses outcome := by
  refine ⟨Conversation.faithful_asks p src s d, ?_, ?_⟩
  · intro requests
    exact Conversation.forget_asks _ requests
  · have hlevel := Conversation.level_fresh p.machine (src.script s) s d
    have hreads := Conversation.reads_asks p.machine src s d []
    exact hlevel.exists_driven hreads (by
      rw [Nat.zero_add]
      exact Nat.lt_succ_self _)

end StreamSelect
