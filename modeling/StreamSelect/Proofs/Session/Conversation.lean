import StreamSelect.Proofs.Session.Script
import StreamSelect.Proofs.Run.Step

/-! Sessions as they are used: a caller looks for events and takes them in any order. After as many
takes as the source has events a session is at the end of its script, wherever the caller looked. -/
namespace StreamSelect

variable {B D σ : Type}

/-- What a caller asks of a session. -/
inductive Request where
  | look
  | take

inductive Response where
  | more (available : Bool)
  | taken (result : Except Error Event)

def Response.result? : Response → Option (Except Error Event)
  | .more _ => none
  | .taken result => some result

/-- A session in use: where it is, its data, and its answers so far. -/
structure Conversation (σ D : Type) where
  session : Session σ
  data : D
  responses : List Response := []

namespace Conversation

/-- The answers to the takes. -/
def results (c : Conversation σ D) : List (Except Error Event) :=
  c.responses.filterMap Response.result?

def ask (m : Machine B D) (src : EventSource σ) (c : Conversation σ D) :
    Request → Conversation σ D
  | .look => ⟨c.session.peek src, c.data, c.responses ++ [.more (c.session.hasMore src)]⟩
  | .take =>
    let reply := c.session.advance m src c.data
    ⟨reply.session, reply.data, c.responses ++ [.taken reply.result]⟩

def asks (m : Machine B D) (src : EventSource σ) (c : Conversation σ D)
    (requests : List Request) : Conversation σ D :=
  requests.foldl (ask m src) c

/-- What was polled of the source so far. -/
def polled (c : Conversation (σ × List Poll) D) : List Poll := c.session.source.2

/-- The conversation without the record of the polls. -/
def forget (c : Conversation (σ × List Poll) D) : Conversation σ D :=
  ⟨{ c.session with source := c.session.source.1 }, c.data, c.responses⟩

variable {m : Machine B D} {src : EventSource σ}

theorem asks_append (c : Conversation σ D) (first later : List Request) :
    c.asks m src (first ++ later) = (c.asks m src first).asks m src later :=
  List.foldl_append

/-- What survives every request holds after all of them. -/
theorem asks_invariant {P : Conversation σ D → Prop}
    (hask : ∀ c request, P c → P (c.ask m src request)) {c : Conversation σ D} (h : P c)
    (requests : List Request) : P (c.asks m src requests) := by
  induction requests generalizing c with
  | nil => exact h
  | cons request requests ih => exact ih (hask c request h)

@[simp] theorem results_ask_look (m : Machine B D) (src : EventSource σ) (c : Conversation σ D) :
    (c.ask m src .look).results = c.results := by
  simp [results, ask, Response.result?]

@[simp] theorem results_ask_take (m : Machine B D) (src : EventSource σ) (c : Conversation σ D) :
    (c.ask m src .take).results = c.results ++ [(c.session.advance m src c.data).result] := by
  simp [results, ask, Response.result?]

/-- Keeping a record of the polls changes nothing else. -/
theorem forget_ask (c : Conversation (σ × List Poll) D) (request : Request) :
    (c.ask m src.recorded request).forget = c.forget.ask m src request := by
  obtain ⟨⟨run, ⟨t, log⟩, pending, exhausted⟩, d, responses⟩ := c
  have hpeek : ∀ s : Session (σ × List Poll),
      ({ s.peek src.recorded with source := (s.peek src.recorded).source.1 } : Session σ) =
        ({ s with source := s.source.1 } : Session σ).peek src := by
    intro s
    unfold Session.peek
    simp only [EventSource.recorded]
    split <;> rfl
  cases request with
  | look =>
    have h := hpeek ⟨run, (t, log), pending, exhausted⟩
    simp only [ask, forget, Session.hasMore, ← h]
  | take =>
    have h := hpeek ⟨run, (t, log), pending, exhausted⟩
    simp only [ask, forget, Session.advance, ← h]
    split <;> rfl

theorem forget_asks (c : Conversation (σ × List Poll) D) (requests : List Request) :
    (c.asks m src.recorded requests).forget = c.forget.asks m src requests := by
  induction requests generalizing c with
  | nil => rfl
  | cons request requests ih =>
    have h := ih (c.ask m src.recorded request)
    rw [forget_ask] at h
    exact h

end Conversation

/-! ### Reading along the script -/

/-- How many polls of a source give something. -/
def Script.items (sc : Script) : Nat := sc.events.length + sc.failure.toList.length

theorem Script.eq_of_items_le {sc : Script} {n : Nat} (hitems : sc.items ≤ n)
    (hn : n ≤ sc.events.length) : n = sc.events.length ∧ sc.failure = none := by
  unfold items at hitems
  cases hfailure : sc.failure with
  | none =>
    rw [hfailure, Option.toList_none, List.length_nil] at hitems
    exact ⟨by omega, rfl⟩
  | some failure =>
    rw [hfailure, Option.toList_some, List.length_singleton] at hitems
    omega

namespace Session

/-- Where a session is in the script of its source after a number of takes. -/
inductive Reads (src : EventSource σ) (sc : Script) (n : Nat) :
    Session (σ × List Poll) → Prop
  | ready {run : Run} {t : σ} (hn : n ≤ sc.events.length) (ht : src.script t = sc.drop n) :
    Reads src sc n ⟨run, (t, sc.polls.take n), none, false⟩
  | holding {run : Run} {t : σ} (hn : n < sc.events.length) (ht : src.script t = sc.drop (n + 1)) :
    Reads src sc n ⟨run, (t, sc.polls.take (n + 1)), some (.ok sc.events[n]), false⟩
  | failing {run : Run} {t : σ} {failure : String} (hn : n = sc.events.length)
    (hfailure : sc.failure = some failure) :
    Reads src sc n ⟨run, (t, sc.polls), some (.error failure), false⟩
  | ended {run : Run} {t : σ} (hn : sc.items ≤ n) : Reads src sc n ⟨run, (t, sc.polls), none, true⟩

variable {src : EventSource σ} {sc : Script} {n : Nat} {s : Session (σ × List Poll)}

/-- Looking polls at most once and stays at the place. -/
theorem Reads.peek (h : Reads src sc n s) :
    Reads src sc n (s.peek src.recorded) ∧ (s.peek src.recorded).run = s.run ∧
      ((s.peek src.recorded).pending.isSome ∨ (s.peek src.recorded).exhausted) := by
  cases h with
  | @ready run t hn ht =>
    cases hpoll : src.poll t with
    | mk item rest =>
      have hpeek : peek src.recorded ⟨run, (t, sc.polls.take n), none, false⟩ =
          ⟨run, (rest, sc.polls.take n ++ [item]), item, item.isNone⟩ := by
        simp [Session.peek, EventSource.recorded, hpoll]
      rw [hpeek]
      refine ⟨?_, rfl, by cases item <;> simp⟩
      match item with
      | none =>
        obtain ⟨hlength, hfailure⟩ := Script.of_drop_eq_nil
          ((EventSource.script_of_none hpoll).symm.trans ht)
        obtain rfl : n = sc.events.length := by omega
        have hpolls := sc.take_length_polls
        rw [hfailure] at hpolls
        rw [show (none : Poll) = none.map .error from rfl, ← hpolls]
        exact .ended (by simp [Script.items, hfailure])
      | some (.error failure) =>
        obtain ⟨hlength, hfailure⟩ := Script.of_drop_eq_nil
          ((EventSource.script_of_failure hpoll).symm.trans ht)
        obtain rfl : n = sc.events.length := by omega
        have hpolls := sc.take_length_polls
        rw [hfailure, Option.map_some] at hpolls
        rw [← hpolls]
        exact .failing rfl hfailure
      | some (.ok event) =>
        obtain ⟨hlt, hevent, hrest⟩ := Script.of_drop_eq_cons
          ((EventSource.script_of_event hpoll).symm.trans ht)
        rw [← hevent, ← Script.take_succ_polls hlt]
        exact .holding hlt hrest
  | holding hn ht => exact ⟨.holding hn ht, rfl, .inl rfl⟩
  | failing hn hfailure => exact ⟨.failing hn hfailure, rfl, .inl rfl⟩
  | ended hn => exact ⟨.ended hn, rfl, .inr rfl⟩

/-- There is more exactly while something of the source was not taken. -/
theorem Reads.hasMore_iff (h : Reads src sc n s) :
    s.hasMore src.recorded = true ↔ n < sc.items := by
  obtain ⟨hreads, -, hlooked⟩ := h.peek
  unfold hasMore
  generalize s.peek src.recorded = looked at hreads hlooked
  cases hreads with
  | ready hn ht => simp at hlooked
  | holding hn ht => simp [Script.items]; omega
  | failing hn hfailure => simp [Script.items, hfailure, hn]
  | ended hn => simpa using hn

/-- What a take does after a number of takes: it steps over the next event, meets the failure of
the source, or finds nothing. -/
inductive Takes (m : Machine B D) (sc : Script) (n : Nat) (s : Session (σ × List Poll)) (d : D) :
    SessionReply (σ × List Poll) D → Prop
  | event {reply : SessionReply (σ × List Poll) D} (hn : n < sc.events.length)
    (hrun : reply.session.run = (m.step s.run sc.events[n] d).run)
    (hdata : reply.data = (m.step s.run sc.events[n] d).data)
    (hresult : reply.result = match (m.step s.run sc.events[n] d).error with
      | some e => .error e
      | none => .ok sc.events[n]) :
    Takes m sc n s d reply
  | failure {reply : SessionReply (σ × List Poll) D} {failure : String}
    (hn : n = sc.events.length) (hfailure : sc.failure = some failure)
    (hrun : reply.session.run = s.run) (hdata : reply.data = d)
    (hresult : reply.result = .error { cause := .source failure }) :
    Takes m sc n s d reply
  | nothing {reply : SessionReply (σ × List Poll) D} (hn : sc.items ≤ n)
    (hrun : reply.session.run = s.run) (hdata : reply.data = d)
    (hresult : reply.result = .error ⟨.protocol .noMoreEvents, s.run.location⟩) :
    Takes m sc n s d reply

/-- A take moves one place on. -/
theorem Reads.advance (h : Reads src sc n s) (m : Machine B D) (d : D) :
    Reads src sc (n + 1) (s.advance m src.recorded d).session ∧
      Takes m sc n s d (s.advance m src.recorded d) := by
  obtain ⟨hreads, hrun, hlooked⟩ := h.peek
  unfold Session.advance
  generalize s.peek src.recorded = looked at hreads hrun hlooked
  cases hreads with
  | ready hn ht => simp at hlooked
  | holding hn ht =>
    refine ⟨.ready hn ht, .event hn ?_ ?_ ?_⟩
    all_goals exact hrun ▸ rfl
  | failing hn hfailure =>
    refine ⟨.ended ?_, .failure hn hfailure hrun rfl rfl⟩
    simp [Script.items, hfailure, hn]
  | ended hn =>
    refine ⟨.ended (by omega), .nothing hn hrun rfl ?_⟩
    rw [← hrun]

/-- No poll is more than one ahead of the takes. -/
theorem Reads.polled (h : Reads src sc n s) :
    s.source.2 <+: sc.polls ∧ min n sc.polls.length ≤ s.source.2.length ∧
      s.source.2.length ≤ n + 1 := by
  have hlength := sc.length_polls
  cases h with
  | ready hn ht =>
    refine ⟨List.take_prefix _ _, ?_, ?_⟩
    all_goals simp only [List.length_take]; omega
  | holding hn ht =>
    refine ⟨List.take_prefix _ _, ?_, ?_⟩
    all_goals simp only [List.length_take]; omega
  | failing hn hfailure =>
    refine ⟨List.prefix_refl _, ?_, ?_⟩
    all_goals simp only; omega
  | ended hn =>
    refine ⟨List.prefix_refl _, ?_, ?_⟩
    all_goals simp only [Script.items] at *; omega

end Session

namespace Conversation

variable {m : Machine B D} {src : EventSource σ} {sc : Script}

/-- The place in the script is the number of takes. -/
theorem reads_ask {c : Conversation (σ × List Poll) D}
    (h : c.session.Reads src sc c.results.length) (request : Request) :
    (c.ask m src.recorded request).session.Reads src sc
      (c.ask m src.recorded request).results.length := by
  cases request with
  | look =>
    rw [results_ask_look]
    exact h.peek.1
  | take =>
    rw [results_ask_take, List.length_append, List.length_singleton]
    exact (h.advance m c.data).1

/-- A fresh session on a source, with an empty record of its polls. -/
def fresh (s : σ) (d : D) : Conversation (σ × List Poll) D := ⟨Parser.start (s, []), d, []⟩

theorem reads_asks (m : Machine B D) (src : EventSource σ) (s : σ) (d : D)
    (requests : List Request) :
    ((fresh s d).asks m src.recorded requests).session.Reads src (src.script s)
      ((fresh s d).asks m src.recorded requests).results.length := by
  apply asks_invariant
    (P := fun c => c.session.Reads src (src.script s) c.results.length)
  · intro c request h
    exact reads_ask h request
  · exact .ready (Nat.zero_le _) rfl

end Conversation
end StreamSelect
