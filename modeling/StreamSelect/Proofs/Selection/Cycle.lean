import Mathlib.Data.List.Induction
import StreamSelect.Proofs.Building.NamedScope

/-! Explicit cycles. A transition that leads from the end of a path back to a state on the path makes
a loop of the names between. An element is in that state exactly if its names, from the document
element down, go along the path to the state and then round the loop, any number of times. -/
namespace StreamSelect

/-! ### Automata of named children -/

namespace Graph

variable {H : Type} {g : Graph H}

/-- An automaton that is entered by the names of children only, and left for good with the first
name that no transition tests. -/
structure OfChildren (g : Graph H) : Prop where
  free : g.Free
  rules : ∀ s, (g.state s).rules = []
  fallback : ∀ s, (g.state s).fallback = none
  sink : (g.state .sink).transitions = []

theorem ofChildren_initial : (initial : Graph H).OfChildren := by
  refine ⟨free_initial, fun s => ?_, fun s => ?_, ?_⟩
  all_goals rw [state_initial]

namespace OfChildren

/-- A state other than the sink may get one more transition. -/
theorem of_state_cases (h : g.OfChildren) {later : Graph H} (hf : later.Free) {s : StateId}
    (hs : s ≠ .sink) {test : Constraint}
    (hl : ∀ t, later.state t = g.state t ∨ t = s ∧ ∃ u, later.state t =
      { g.state t with transitions := (g.state t).transitions ++ [⟨test, u⟩] }) :
    later.OfChildren := by
  refine ⟨hf, fun t => ?_, fun t => ?_, ?_⟩
  · rcases hl t with ht | ⟨-, u, ht⟩
    · rw [ht, h.rules]
    · rw [ht, h.rules]
  · rcases hl t with ht | ⟨-, u, ht⟩
    · rw [ht, h.fallback]
    · rw [ht, h.fallback]
  · rcases hl .sink with ht | ⟨ht, -⟩
    · rw [ht, h.sink]
    · exact absurd ht.symm hs

theorem addTransition (h : g.OfChildren) {s : StateId} (hs : s ≠ .sink) (n : Name) :
    (g.addTransition s (.name n)).2.OfChildren :=
  h.of_state_cases (h.free.addTransition s n) hs (g.state_addTransition_cases s (.name n))

theorem link (h : g.OfChildren) {s : StateId} (hs : s ≠ .sink) (n : Name) (target : StateId) :
    (g.link s (.name n) target).2.OfChildren :=
  h.of_state_cases (h.free.link s n target) hs (g.state_link_cases s (.name n) target)

theorem attach (h : g.OfChildren) (s : StateId) (handler : H) : (g.attach s handler).OfChildren := by
  refine ⟨h.free.attach s handler, fun t => ?_, fun t => ?_, ?_⟩
  · obtain ⟨handlers, ht⟩ := g.state_attach s handler t
    rw [ht]
    exact h.rules t
  · obtain ⟨handlers, ht⟩ := g.state_attach s handler t
    rw [ht]
    exact h.fallback t
  · obtain ⟨handlers, ht⟩ := g.state_attach s handler .sink
    rw [ht]
    exact h.sink

end OfChildren

theorem Usable.ne_sink {s : StateId} (hs : g.Usable s) : s ≠ .sink := by
  rintro rfl
  exact Nat.not_succ_le_zero _ hs.1

/-- Handlers are no edges. -/
theorem hop?_attach (g : Graph H) (s : StateId) (handler : H) (t : StateId) (h : Hop) :
    (g.attach s handler).hop? t h = g.hop? t h := by
  obtain ⟨handlers, ht⟩ := g.state_attach s handler t
  unfold hop?
  rw [ht]

theorem reach?_attach (g : Graph H) (s : StateId) (handler : H) (t : StateId) (chain : Chain) :
    (g.attach s handler).reach? t chain = g.reach? t chain := by
  induction chain generalizing t with
  | nil => rfl
  | cons h chain ih =>
    rw [reach?, reach?, hop?_attach]
    exact congrArg _ (funext ih)

/-- An explicit transition is followed by what no transition of its source takes. -/
theorem hop?_link {t : StateId} (ht : g.contains t = true) (n : Name) (s u : StateId) (k : Name) :
    (g.link t (.name n) s).2.hop? u ⟨false, .name k⟩ = (g.hop? u ⟨false, .name k⟩).or
      (if u = t ∧ (n == k) = true then some s else none) := by
  have hsame : (n == k) = true → g.hop? t ⟨false, .name n⟩ = g.hop? t ⟨false, .name k⟩ :=
    fun hk => g.hop?_congr t ⟨rfl, hk⟩
  unfold link
  split
  · rename_i existing hex
    split
    · rename_i huk
      obtain ⟨rfl, hk⟩ := huk
      rw [← hsame hk, show g.hop? u ⟨false, .name n⟩ = some existing from hex, Option.some_or]
    · exact Option.or_none.symm
  · show Transition.targetOf? ((g.update t _).state u).transitions (.name k) = _
    rw [state_update]
    by_cases hu : u = t
    · subst hu
      rw [if_pos ⟨rfl, ht⟩]
      show Transition.targetOf? ((g.state u).transitions ++ [⟨.name n, s⟩]) (.name k) = _
      unfold Transition.targetOf?
      rw [List.find?_append, Option.map_or, List.find?_singleton]
      refine congrArg (Option.or _) ?_
      show Option.map _ (if (n == k) = true then _ else _) = _
      cases n == k with
      | true => rw [if_pos rfl, if_pos ⟨rfl, rfl⟩]; rfl
      | false => simp
    · rw [if_neg fun h => hu h.1, if_neg fun h => hu h.1, Option.or_none]
      rfl

/-! ### Stems -/

/-- An automaton whose states are all reached by paths of names of a bounded length, each by one
path alone. -/
structure Stem (g : Graph H) (length : Nat) : Prop where
  arranged : ∃ o, g.Arranged o
  children : g.OfChildren
  root : g.Usable .root
  short : ∀ s, g.Usable s →
    ∃ path, path.length ≤ length ∧ g.reach? .root (childChain path) = some s

theorem stem_initial (length : Nat) : (initial : Graph H).Stem length := by
  refine ⟨⟨_, arranged_initial⟩, ofChildren_initial, ⟨Nat.le_refl 1, rfl⟩, fun s hs => ?_⟩
  have hone : s = .root := by
    obtain ⟨h1, h2⟩ := hs
    have h2 : s.index < 2 := of_decide_eq_true h2
    cases s
    exact congrArg StateId.mk (Nat.le_antisymm (Nat.le_of_lt_succ h2) h1)
  exact ⟨[], Nat.zero_le _, hone ▸ rfl⟩

namespace Stem

variable {length : Nat} {s t : StateId}

theorem usable (h : g.Stem length) {path : List Name}
    (hs : g.reach? .root (childChain path) = some s) : g.Usable s := by
  obtain ⟨o, ha⟩ := h.arranged
  exact ha.usable_of_reach? h.root hs

theorem unique (h : g.Stem length) {v w : List Name}
    (hv : g.reach? .root (childChain v) = some s) (hw : g.reach? .root (childChain w) = some s) :
    (v == w) = true := by
  obtain ⟨o, ha⟩ := h.arranged
  exact same_childChain_iff.1
    (ha.same_of_reach? (separated_childChain v) (separated_childChain w) hv hw)

/-- A longest path leads no further. -/
theorem hop?_of_length (h : g.Stem length) {path : List Name}
    (ht : g.reach? .root (childChain path) = some t) (hl : path.length = length) (n : Name) :
    g.hop? t ⟨false, .name n⟩ = none := by
  cases hu : g.hop? t ⟨false, .name n⟩ with
  | none => rfl
  | some u =>
    have hreach : g.reach? .root (childChain (path ++ [n])) = some u := by
      rw [childChain_concat, reach?_concat, ht]
      exact hu
    obtain ⟨short, hshort, hshortReach⟩ := h.short u (h.usable hreach)
    have hlen := congrArg List.length (names_beq_iff.1 (h.unique hshortReach hreach))
    simp only [List.length_map, List.length_append, List.length_singleton] at hlen
    omega

theorem extend (h : g.Stem length) {front : List Name}
    (hs : g.reach? .root (childChain front) = some s) (hl : front.length < length) (n : Name) :
    (g.extend s ⟨false, .name n⟩).2.Stem length := by
  obtain ⟨o, ha⟩ := h.arranged
  have hu := h.usable hs
  have hext : g.Extends (g.extend s ⟨false, .name n⟩).2 := .extend _ _ _
  rcases ha.extend_cases hu.2 ⟨false, .name n⟩ with ⟨-, hg⟩ | ⟨hnone, -, hg⟩
  · rw [hg]
    exact h
  refine ⟨⟨_, ha.grow hu.1 hu.2 hg⟩, h.children.addTransition hu.ne_sink n, h.root.mono hext,
    fun x hx => ?_⟩
  have hlt : x.index < (g.extend s ⟨false, .name n⟩).2.size := of_decide_eq_true hx.2
  rw [hg.size_eq] at hlt
  rcases Nat.lt_or_eq_of_le (Nat.le_of_lt_succ hlt) with hlt | heq
  · obtain ⟨path, hpath, hreach⟩ := h.short x ⟨hx.1, decide_eq_true hlt⟩
    exact ⟨path, hpath, reach?_of_extends hext hreach⟩
  · refine ⟨front ++ [n], by simpa using Nat.succ_le_of_lt hl, ?_⟩
    rw [childChain_concat, reach?_concat, reach?_of_extends hext hs]
    refine (hg.hop?_eq hnone).trans (congrArg some ?_)
    cases x
    exact congrArg StateId.mk heq.symm

theorem attach (h : g.Stem length) (s : StateId) (handler : H) :
    (g.attach s handler).Stem length := by
  obtain ⟨o, ha⟩ := h.arranged
  have hext : g.Extends (g.attach s handler) := .attach _ _ _
  refine ⟨⟨o, ha.attach s handler⟩, h.children.attach s handler, h.root.mono hext, fun x hx => ?_⟩
  obtain ⟨path, hpath, hreach⟩ := h.short x ⟨hx.1, (contains_update g s x _).symm.trans hx.2⟩
  exact ⟨path, hpath, reach?_of_extends hext hreach⟩

end Stem
end Graph

/-! ### Cycles -/

/-- A path to a point, and then a number of rounds from the point back to it. -/
def cyclePath (path round : List Name) (n : Name) (times : Nat) : List Name :=
  path ++ (List.replicate times (round ++ [n])).flatten

theorem cyclePath_zero (path round : List Name) (n : Name) : cyclePath path round n 0 = path :=
  List.append_nil path

theorem cyclePath_succ (path round : List Name) (n : Name) (times : Nat) :
    cyclePath path round n (times + 1) = cyclePath path round n times ++ round ++ [n] := by
  rw [cyclePath, cyclePath, List.replicate_succ', List.flatten_append, List.flatten_singleton,
    List.append_assoc, List.append_assoc]

namespace Graph

variable {H : Type} {g : Graph H} {path round : List Name} {n : Name} {s t : StateId}

/-- An automaton of named children in which the rounds from a state back to it, behind the path to
it, are the only ways there. -/
structure Cycle (g : Graph H) (path round : List Name) (n : Name) (s : StateId) : Prop where
  children : g.OfChildren
  ne_sink : s ≠ .sink
  reach_iff : ∀ names, g.reach? .root (childChain names) = some s ↔
    ∃ times, (names == cyclePath path round n times) = true

theorem Cycle.attach (h : g.Cycle path round n s) (t : StateId) (handler : H) :
    (g.attach t handler).Cycle path round n s := by
  refine ⟨h.children.attach t handler, h.ne_sink, fun names => ?_⟩
  rw [reach?_attach]
  exact h.reach_iff names

/-- From a state on a path it is the rest of the path that leads on. -/
theorem reach?_childChain_append (hs : g.reach? .root (childChain path) = some s)
    (rest : List Name) :
    g.reach? .root (childChain (path ++ rest)) = g.reach? s (childChain rest) := by
  rw [childChain_append, reach?_append, hs]
  rfl

section Link

variable (h : g.Stem (path ++ round).length) (hs : g.reach? .root (childChain path) = some s)
  (ht : g.reach? .root (childChain (path ++ round)) = some t)
include h hs ht

/-- The path and any number of rounds lead to the state. -/
theorem reach?_cyclePath (times : Nat) :
    (g.link t (.name n) s).2.reach? .root (childChain (cyclePath path round n times)) = some s := by
  have hext : g.Extends (g.link t (.name n) s).2 := .link _ _ _ _
  have hround := (reach?_childChain_append hs round).symm.trans ht
  induction times with
  | zero =>
    rw [cyclePath_zero]
    exact reach?_of_extends hext hs
  | succ times ih =>
    rw [cyclePath_succ, childChain_concat, childChain_append, reach?_concat, reach?_append, ih,
      Option.bind_some, reach?_of_extends hext hround, Option.bind_some,
      hop?_link (h.usable ht).2, h.hop?_of_length ht rfl, if_pos ⟨rfl, BEq.rfl⟩]
    rfl

/-- A path in the automaton with the transition is one without it, or one that goes round and on
from the state without it. -/
theorem reach?_of_link {names : List Name} {u : StateId}
    (hu : (g.link t (.name n) s).2.reach? .root (childChain names) = some u) :
    g.reach? .root (childChain names) = some u ∨ ∃ times rest,
      (names == cyclePath path round n times ++ rest) = true ∧
        g.reach? s (childChain rest) = some u := by
  induction names using List.reverseRecOn generalizing u with
  | nil => exact .inl hu
  | append_singleton names k ih =>
    rw [childChain_concat, reach?_concat] at hu
    obtain ⟨above, habove, hhop⟩ := Option.bind_eq_some_iff.1 hu
    rw [hop?_link (h.usable ht).2, Option.or_eq_some_iff] at hhop
    rcases hhop with hhop | ⟨-, hnew⟩
    · rcases ih habove with hplain | ⟨times, rest, hnames, hrest⟩
      · left
        rw [childChain_concat, reach?_concat, hplain]
        exact hhop
      · refine .inr ⟨times, rest ++ [k], ?_, ?_⟩
        · rw [← List.append_assoc]
          exact append_beq_append hnames BEq.rfl
        · rw [childChain_concat, reach?_concat, hrest]
          exact hhop
    -- the new transition closes a round
    · split at hnew
      · rename_i hclose
        obtain ⟨rfl, hk⟩ := hclose
        obtain rfl : s = u := Option.some.inj hnew
        have hlast : ([k] == [n]) = true := by
          rw [List.cons_beq_cons, BEq.comm (a := k), hk]
          rfl
        have hround : ∃ times, (names == cyclePath path round n times ++ round) = true := by
          rcases ih habove with hplain | ⟨times, rest, hnames, hrest⟩
          · refine ⟨0, ?_⟩
            rw [cyclePath_zero]
            exact h.unique hplain ht
          · refine ⟨times, BEq.trans hnames (append_beq_append BEq.rfl ?_)⟩
            have hreach := (reach?_childChain_append hs rest).trans hrest
            exact append_beq_append_left (h.unique hreach ht)
        obtain ⟨times, hnames⟩ := hround
        refine .inr ⟨times + 1, [], ?_, rfl⟩
        rw [cyclePath_succ, List.append_nil]
        exact append_beq_append hnames hlast
      · cases hnew

/-- A transition from the end of a longest path to a state on the path makes a cycle. -/
theorem cycle_link : (g.link t (.name n) s).2.Cycle path round n s := by
  have hne := (h.usable hs).ne_sink
  refine ⟨h.children.link (h.usable ht).ne_sink n s, hne, fun names => ⟨fun hu => ?_, ?_⟩⟩
  · rcases reach?_of_link h hs ht hu with hplain | ⟨times, rest, hnames, hrest⟩
    · refine ⟨0, ?_⟩
      rw [cyclePath_zero]
      exact h.unique hplain hs
    · have hreach := (reach?_childChain_append hs rest).trans hrest
      have hnil : (rest == []) = true := by
        apply append_beq_append_left (v := path)
        rw [List.append_nil]
        exact h.unique hreach hs
      refine ⟨times, BEq.trans hnames ?_⟩
      have hcycle : (cyclePath path round n times ++ rest ==
          cyclePath path round n times ++ []) = true := append_beq_append BEq.rfl hnil
      rwa [List.append_nil] at hcycle
  · rintro ⟨times, hnames⟩
    rw [reach?_congr _ _ (same_childChain_iff.2 hnames)]
    exact reach?_cyclePath h hs ht times

end Link
end Graph

/-- In an automaton of named children an element is in the state that the names from the document
element down lead to. -/
theorem Machine.innermost_eq_iff_reach? {B D : Type} {m : Machine B D}
    (h : m.model.graph.OfChildren) (hroot : m.model.root = .root) {frames : List Frame}
    (he : m.EnteredAll frames) {s : StateId} (hs : s ≠ .sink) :
    m.innermost (frames.map Frame.ancestor) = s ↔
      m.model.graph.reach? .root (childChain (namePath (frames.map (·.element)))) = some s := by
  refine ⟨fun hin => ?_, fun hr => innermost_of_names h.free.named (.refl _) hroot he hr BEq.rfl⟩
  induction frames generalizing s with
  | nil => exact congrArg some (hroot.symm.trans hin)
  | cons f outer ih =>
    have houter := he.suffix (List.suffix_cons f outer)
    have hin : m.entry (outer.map Frame.ancestor) f.element = s :=
      (he f outer List.suffix_rfl).symm.trans hin
    have hrules : ((m.statesAbove (outer.map Frame.ancestor)).findSome? fun t =>
        (m.state t).followRules m.filters f.element) = none := by
      refine List.findSome?_eq_none_iff.2 fun t _ => ?_
      show (m.model.graph.state t).followRules m.filters f.element = none
      rw [State.followRules, h.rules, h.fallback]
      rfl
    rw [entry_eq, hrules] at hin
    cases hf : (m.state (m.innermost (outer.map Frame.ancestor))).follow m.filters f.element with
    | none =>
      rw [hf] at hin
      exact absurd hin.symm hs
    | some t =>
      rw [hf] at hin
      obtain rfl : t = s := hin
      have hne : m.innermost (outer.map Frame.ancestor) ≠ .sink := by
        intro hsink
        rw [hsink] at hf
        have hnone : (m.model.graph.state .sink).follow m.filters f.element = none := by
          rw [State.follow, h.sink]
          rfl
        cases hnone.symm.trans hf
      rw [List.map_cons, namePath_cons, childChain_concat, Graph.reach?_concat, ih houter hne rfl]
      exact (Transition.follow_eq_targetOf? (h.free.named _) m.filters f.element).symm.trans hf

end StreamSelect
