import Mathlib.Computability.Primrec.List
import Mathlib.Data.List.Permutation
import StreamSelect.Construction
import StreamSelect.Proofs.Run.Ancestry
import StreamSelect.Proofs.Run.Calls
import StreamSelect.Proofs.Run.Step

-- `Primrec.List` and `List.Permutation` have the equations of `List.lookup` and of pairs that `cbv`
-- evaluates the example below with.

/-! Occurrence limits. The counter of a limited state is its limit less the number of elements that
have entered it in the run, and the element that would be one too many is rejected before any
handler hears of it. -/
namespace StreamSelect

/-- The state that an element has entered between two moments one event apart. -/
def Run.entered? (before after : Run) : Option StateId :=
  if before.depth < after.depth then after.frames.head?.map (·.state) else none

namespace Run

variable {before after : Run}

theorem entered?_of_frames (h : after.frames = before.frames) : before.entered? after = none := by
  simp [entered?, depth, h]

theorem entered?_of_closed {f : Frame} (h : before.frames = f :: after.frames) :
    before.entered? after = none := by
  have hlt : ¬ before.depth < after.depth := by
    rw [depth, depth, h, List.length_cons]
    omega
  exact if_neg hlt

theorem entered?_of_opened {f : Frame} (h : after.frames = f :: before.frames) :
    before.entered? after = some f.state := by
  simp [entered?, depth, h]

theorem remaining_settle {D : Type} {next stopped : Run} (h : stopped.remaining = next.remaining)
    (reaction : Reaction D) (notes : List Note) :
    (settle next stopped reaction notes).run.remaining = next.remaining :=
  run_settle (f := Run.remaining) (fun _ => rfl) h reaction notes

end Run

namespace Machine

variable {B D : Type}

/-- The run and the data after a list of events. After an error the events that follow fail too. -/
def feed (m : Machine B D) : List Event → Run → D → Run × D
  | [], r, d => (r, d)
  | event :: events, r, d =>
    let reply := m.step r event d
    feed m events reply.run reply.data

/-- The states that elements enter on the way, in order. -/
def entries (m : Machine B D) : List Event → Run → D → List StateId
  | [], _, _ => []
  | event :: events, r, d =>
    let reply := m.step r event d
    (r.entered? reply.run).toList ++ entries m events reply.run reply.data

/-! ### What an event does to a counter -/

/-- The element that opens takes one from the counter of its state. -/
theorem lookup_of_enter {m : Machine B D} {r entered : Run} {e : StartElement}
    (h : m.enter r e = .ok entered) {s : StateId} {n : Nat} (hl : (m.state s).limit = some n) :
    (m.target r e ≠ s ∧ entered.remaining.lookup s = r.remaining.lookup s) ∨
      (m.target r e = s ∧ ∃ k, r.remainingIn s n = k + 1 ∧
        entered.remaining.lookup s = some k) := by
  unfold enter at h
  split at h
  · cases h
  split at h
  · cases h
  rename_i counted hc
  cases h
  unfold count at hc
  cases ht : (m.state (m.target r e)).limit with
  | none =>
    left
    simp only [ht] at hc
    cases hc
    refine ⟨?_, rfl⟩
    rintro rfl
    rw [hl] at ht
    cases ht
  | some limit =>
    simp only [ht] at hc
    cases hk : r.remainingIn (m.target r e) limit with
    | zero => simp [hk] at hc
    | succ k =>
      simp only [hk] at hc
      cases hc
      rw [Run.lookup_setRemaining]
      by_cases hs : m.target r e = s
      · subst hs
        obtain rfl : n = limit := Option.some.inj (hl.symm.trans ht)
        exact .inr ⟨rfl, k, hk, if_pos rfl⟩
      · exact .inl ⟨hs, if_neg (Ne.symm hs)⟩

theorem remaining_step_of_not_start (m : Machine B D) (r : Run) {event : Event}
    (h : ∀ e, event ≠ .startElement e) (d : D) :
    (m.step r event d).run.remaining = r.remaining := by
  cases hp : r.poisoned with
  | true => rw [step_of_poisoned hp]; rfl
  | false =>
    rw [step_of_running hp]
    cases event with
    | startElement e => exact absurd rfl (h e)
    | endElement e =>
      simp only [finish]
      split
      · rfl
      · apply Run.remaining_settle
        rfl
    | characters c =>
      simp only [text]
      split
      · rfl
      · exact Run.remaining_settle rfl _ _
    | declaration x => exact Run.remaining_settle rfl _ _

theorem entered?_step_of_not_start (m : Machine B D) (r : Run) {event : Event}
    (h : ∀ e, event ≠ .startElement e) (d : D) : r.entered? (m.step r event d).run = none := by
  rcases m.frames_step r event d with hf | ⟨e, he, -⟩ | ⟨e, f, -, hf⟩
  · exact Run.entered?_of_frames hf
  · exact absurd he (h e)
  · exact Run.entered?_of_closed hf

/-- An entry into a limited state takes one from its counter; nothing else changes the counter. -/
theorem lookup_step (m : Machine B D) (r : Run) (event : Event) (d : D) {s : StateId} {n : Nat}
    (hl : (m.state s).limit = some n) :
    (r.entered? (m.step r event d).run ≠ some s ∧
        (m.step r event d).run.remaining.lookup s = r.remaining.lookup s) ∨
      (r.entered? (m.step r event d).run = some s ∧ ∃ k, r.remainingIn s n = k + 1 ∧
        (m.step r event d).run.remaining.lookup s = some k) := by
  have hkept : (m.step r event d).run.frames = r.frames →
      (m.step r event d).run.remaining = r.remaining →
      r.entered? (m.step r event d).run ≠ some s ∧
        (m.step r event d).run.remaining.lookup s = r.remaining.lookup s := by
    intro hf hr
    rw [Run.entered?_of_frames hf, hr]
    exact ⟨by simp, rfl⟩
  cases event with
  | endElement e | characters c | declaration x =>
    left
    rw [entered?_step_of_not_start m r (by simp), remaining_step_of_not_start m r (by simp)]
    exact ⟨by simp, rfl⟩
  | startElement e =>
    cases hp : r.poisoned with
    | true =>
      left
      apply hkept <;> rw [step_of_poisoned hp] <;> rfl
    | false =>
      cases he : m.enter r e with
      | error cause =>
        left
        obtain ⟨notes, hstep⟩ := step_start_of_error hp he d
        apply hkept <;> rw [hstep] <;> rfl
      | ok entered =>
        obtain ⟨notes, hstep⟩ := step_start_of_ok hp he d
        have hentered : r.entered? (m.step r (.startElement e) d).run = some (m.target r e) := by
          apply Run.entered?_of_opened (f := m.frame r e)
          rw [hstep, Run.frames_settle rfl]
          have hframes := frames_of_enter he
          exact hframes
        have hremaining : (m.step r (.startElement e) d).run.remaining = entered.remaining := by
          rw [hstep]
          exact Run.remaining_settle rfl _ _
        rw [hentered, hremaining, ne_eq, Option.some.injEq]
        exact lookup_of_enter he hl

/-! ### Counters along a run -/

/-- The counters of a run tell how often each limited state was entered: a counter is absent until
its state is entered, and then stands at what the limit still allows. -/
def Counted (m : Machine B D) (r : Run) (entered : List StateId) : Prop :=
  ∀ s n, (m.state s).limit = some n → entered.count s ≤ n ∧
    r.remaining.lookup s = if entered.count s = 0 then none else some (n - entered.count s)

theorem Counted.remainingIn_eq {m : Machine B D} {r : Run} {entered : List StateId}
    (h : m.Counted r entered) {s : StateId} {n : Nat} (hl : (m.state s).limit = some n) :
    r.remainingIn s n = n - entered.count s := by
  obtain ⟨-, hlookup⟩ := h s n hl
  rw [Run.remainingIn, hlookup]
  split
  · rename_i hz
    rw [hz]
    rfl
  · rfl

theorem counted_start (m : Machine B D) : m.Counted {} [] :=
  fun _ n _ => ⟨Nat.zero_le n, rfl⟩

theorem counted_step {m : Machine B D} {r : Run} {entered : List StateId}
    (h : m.Counted r entered) (event : Event) (d : D) :
    m.Counted (m.step r event d).run
      (entered ++ (r.entered? (m.step r event d).run).toList) := by
  intro s n hl
  obtain ⟨hle, hlookup⟩ := h s n hl
  rcases m.lookup_step r event d hl with ⟨hne, hkept⟩ | ⟨heq, k, hk, hspent⟩
  · have hcount : (r.entered? (m.step r event d).run).toList.count s = 0 := by
      rw [List.count_eq_zero, Option.mem_toList]
      exact hne
    rw [List.count_append, hcount, Nat.add_zero, hkept]
    exact ⟨hle, hlookup⟩
  · rw [h.remainingIn_eq hl] at hk
    have hcount : (entered ++ (r.entered? (m.step r event d).run).toList).count s =
        entered.count s + 1 := by
      rw [heq, List.count_append, Option.toList_some, List.count_singleton_self]
    rw [hcount, hspent]
    refine ⟨by omega, ?_⟩
    rw [if_neg (Nat.succ_ne_zero _), Option.some.injEq]
    omega

theorem counted_feed {m : Machine B D} (events : List Event) {r : Run} {entered : List StateId}
    (d : D) (h : m.Counted r entered) :
    m.Counted (m.feed events r d).1 (entered ++ m.entries events r d) := by
  induction events generalizing r d entered with
  | nil =>
    rw [entries, List.append_nil]
    exact h
  | cons event events ih =>
    rw [entries, ← List.append_assoc]
    exact ih _ (counted_step h event d)

/-! ### Rejected elements -/

section

variable {m : Machine B D} {r : Run} {e : StartElement} {d : D}

theorem refusal?_eq_none_iff : m.refusal? r e = none ↔
    r.done = false ∧ ∀ depth, m.settings.maxDepth = some depth → r.depth < depth := by
  unfold refusal?
  cases r.done with
  | true => simp
  | false => cases m.settings.maxDepth <;> simp

theorem refusal?_ne_cardinality (name : Name) (n : Nat) :
    m.refusal? r e ≠ some (.cardinality name n) := by
  unfold refusal?
  split
  · simp
  · split
    · split <;> simp
    · simp

/-- An element is one too many exactly if it could open but for the counter of its state. -/
theorem enter_eq_cardinality_iff {n : Nat} (hl : (m.state (m.target r e)).limit = some n) :
    m.enter r e = .error (.cardinality e.name n) ↔
      m.refusal? r e = none ∧ r.remainingIn (m.target r e) n = 0 := by
  unfold enter
  cases hr : m.refusal? r e with
  | some cause =>
    have hne := refusal?_ne_cardinality (m := m) (r := r) (e := e) e.name n
    rw [hr] at hne
    simpa using hne
  | none =>
    simp only [count, hl]
    cases r.remainingIn (m.target r e) n <;> simp

/-- No handler fails for that reason, so the element was rejected before any was told. -/
theorem enter_of_cardinality {n : Nat} (hc : (m.step r (.startElement e) d).cause? =
    some (.cardinality e.name n)) :
    r.poisoned = false ∧ m.enter r e = .error (.cardinality e.name n) := by
  cases hp : r.poisoned with
  | true => simp [step_of_poisoned hp] at hc
  | false =>
    cases he : m.enter r e with
    | error cause =>
      obtain ⟨notes, hstep⟩ := step_start_of_error hp he d
      rw [hstep, Run.cause?_fail] at hc
      exact ⟨rfl, by rw [Option.some.inj hc]⟩
    | ok entered =>
      obtain ⟨notes, hstep⟩ := step_start_of_ok hp he d
      rw [hstep, Run.cause?_settle, Option.map_eq_some_iff] at hc
      obtain ⟨message, -, hm⟩ := hc
      cases hm

theorem cause?_step_start_iff {n : Nat} (hl : (m.state (m.target r e)).limit = some n) :
    (m.step r (.startElement e) d).cause? = some (.cardinality e.name n) ↔
      r.poisoned = false ∧ m.refusal? r e = none ∧ r.remainingIn (m.target r e) n = 0 := by
  rw [← enter_eq_cardinality_iff hl]
  refine ⟨enter_of_cardinality, fun ⟨hp, he⟩ => ?_⟩
  obtain ⟨notes, hstep⟩ := step_start_of_error hp he d
  rw [hstep, Run.cause?_fail]

/-- Only an element can be one too many, where the counter of its state is spent. -/
theorem exists_spent_of_cardinality {event : Event} {name : Name} {limit : Nat}
    (h : (m.step r event d).cause? = some (.cardinality name limit)) :
    ∃ e, event = .startElement e ∧ e.name = name ∧ (m.state (m.target r e)).limit = some limit ∧
      r.remainingIn (m.target r e) limit = 0 := by
  rcases cause?_step h with hc | ⟨e, rfl, henter⟩ | ⟨e, -, -, hc⟩ | ⟨message, hc⟩
  · cases hc
  · refine ⟨e, rfl, ?_⟩
    unfold enter at henter
    split at henter
    · rename_i cause hrefused
      rw [Except.error.inj henter] at hrefused
      exact absurd hrefused (refusal?_ne_cardinality _ _)
    · cases hl : (m.state (m.target r e)).limit with
      | none =>
        simp only [count, hl] at henter
        cases henter
      | some k =>
        cases hk : r.remainingIn (m.target r e) k with
        | zero =>
          simp only [count, hl, hk] at henter
          cases henter
          exact ⟨rfl, rfl, hk⟩
        | succ left =>
          simp only [count, hl, hk] at henter
          cases henter
  · cases hc
  · cases hc

end

/-- What a limit of `n` on a state means for a run in which `k` elements have entered the state. -/
structure Limited (m : Machine B D) (s : StateId) (n : Nat) (r : Run) (k : Nat) : Prop where
  entered_le : k ≤ n
  /-- A counter is absent until the state is entered. -/
  counter : r.remaining.lookup s = if k = 0 then none else some (n - k)
  rejects : ∀ e d, m.target r e = s →
    ((m.step r (.startElement e) d).cause? = some (.cardinality e.name n) ↔
      r.poisoned = false ∧ r.done = false ∧
        (∀ depth, m.settings.maxDepth = some depth → r.depth < depth) ∧ k = n)
  /-- A rejected element opens no frame, and no handler is called. -/
  silent : ∀ e d, (m.step r (.startElement e) d).cause? = some (.cardinality e.name n) →
    (m.step r (.startElement e) d).run.frames = r.frames ∧
      ∀ calls, (m.recorded.step r (.startElement e) (d, calls)).data = (d, calls)
  /-- Only an entry into the state changes its counter. -/
  others : ∀ event d, r.entered? (m.step r event d).run ≠ some s →
    (m.step r event d).run.remaining.lookup s = r.remaining.lookup s

/-- In every run, whatever its events and its handlers, a limited state is entered at most as often
as its limit says. Its counter stands at the limit less the entries, and the element that would be
one too many is rejected before it is opened. -/
theorem limited_feed (m : Machine B D) (events : List Event) (d : D) {s : StateId} {n : Nat}
    (hl : (m.state s).limit = some n) :
    m.Limited s n (m.feed events {} d).1 ((m.entries events {} d).count s) := by
  have hcounted := counted_feed events d m.counted_start
  rw [List.nil_append] at hcounted
  obtain ⟨hle, hlookup⟩ := hcounted s n hl
  generalize (m.feed events {} d).1 = r at hcounted hlookup ⊢
  generalize hk : m.entries events {} d = entered at hcounted hle hlookup ⊢
  refine ⟨hle, hlookup, fun e d ht => ?_, fun e d hc => ?_, fun event d hne => ?_⟩
  · subst ht
    rw [cause?_step_start_iff hl, refusal?_eq_none_iff, hcounted.remainingIn_eq hl, and_assoc,
      Nat.sub_eq_zero_iff_le]
    have hfull : n ≤ entered.count (m.target r e) ↔ entered.count (m.target r e) = n :=
      ⟨fun hn => Nat.le_antisymm hle hn, fun hn => Nat.le_of_eq hn.symm⟩
    rw [hfull]
  · obtain ⟨hp, he⟩ := enter_of_cardinality hc
    obtain ⟨notes, hstep⟩ := step_start_of_error hp he d
    refine ⟨by rw [hstep]; rfl, fun calls => ?_⟩
    have herec : m.recorded.enter r e = .error (.cardinality e.name n) := he
    obtain ⟨notes, hrec⟩ := step_start_of_error hp herec (d, calls)
    rw [hrec]
    rfl
  · rcases m.lookup_step r event d hl with ⟨-, hkept⟩ | ⟨heq, -⟩
    · exact hkept
    · exact absurd heq hne

end Machine

/-! At most two elements named `item` at any depth, with a handler on them. -/

def twoItemsBuilder : Builder Unit :=
  ((Builder.ofModel 0).performEach
    [{ statement := .select none [.select (.named (.plain "item")) [], .only 2] [.attach ()] }]).2

def twoItems : Machine Unit Unit where
  model := ⟨(twoItemsBuilder.construct (fun _ _ => []) {}).workspace.graph, .root, []⟩
  behaviours := ⟨fun _ => {}, fun _ => {}⟩
  filters := ⟨fun _ _ => false, fun _ _ _ => false⟩

def item : StartElement := .ofName (.plain "item")

/-- An item inside a list inside an item. -/
def nestedItems : List Event :=
  [.startElement item, .startElement (.ofName (.plain "list")), .startElement item]

/-- The third item is rejected, though the other two are still open. -/
theorem limited_nestedItems :
    (twoItems.state ⟨2⟩).limit = some 2 ∧
      twoItems.entries nestedItems {} () = [⟨2⟩, .sink, ⟨2⟩] ∧
      twoItems.Limited ⟨2⟩ 2 (twoItems.feed nestedItems {} ()).1 2 ∧
      (twoItems.step (twoItems.feed nestedItems {} ()).1 (.startElement item) ()).cause? =
        some (.cardinality (.plain "item") 2) := by
  have hl : (twoItems.state ⟨2⟩).limit = some 2 := by cbv
  have hentries : twoItems.entries nestedItems {} () = [⟨2⟩, .sink, ⟨2⟩] := by cbv
  have hcount : (twoItems.entries nestedItems {} ()).count ⟨2⟩ = 2 := by rw [hentries]; rfl
  have hlimited := twoItems.limited_feed nestedItems () hl
  rw [hcount] at hlimited
  have htarget : twoItems.target (twoItems.feed nestedItems {} ()).1 item = ⟨2⟩ := by cbv
  have hdepth : ∀ depth, twoItems.settings.maxDepth = some depth →
      (twoItems.feed nestedItems {} ()).1.depth < depth := fun _ h => by cases h
  exact ⟨hl, hentries, hlimited,
    (hlimited.rejects item () htarget).2 ⟨by cbv, by cbv, hdepth, rfl⟩⟩

end StreamSelect
