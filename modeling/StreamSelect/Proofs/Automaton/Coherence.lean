import StreamSelect.Proofs.Automaton.Growth

/-! What holds of an automaton however it was made: by steps, by explicit transitions, by handlers
and limits, in any order. Edges lead to states of the automaton and are told apart by their tests;
whatever is entered from any depth is entered from below one state; a match inside a match finds its
way back. -/
namespace StreamSelect

namespace Transition

/-- No two of the edges have equal tests. -/
def Distinct (edges : List Transition) : Prop :=
  edges.Pairwise fun a b => (a.test == b.test) = false

theorem targetOf?_eq_none_iff {edges : List Transition} {test : Constraint} :
    targetOf? edges test = none ↔ ∀ edge ∈ edges, (edge.test == test) = false := by
  simp [targetOf?]

/-- An edge may be put behind those that have other tests. -/
theorem Distinct.concat {edges : List Transition} (h : Distinct edges) {edge : Transition}
    (hn : targetOf? edges edge.test = none) : Distinct (edges ++ [edge]) := by
  rw [targetOf?_eq_none_iff] at hn
  refine List.pairwise_append.2 ⟨h, List.pairwise_singleton _ _, fun a ha b hb => ?_⟩
  rw [List.mem_singleton.1 hb]
  exact hn a ha

theorem Distinct.of_length_le_one {edges : List Transition} (h : edges.length ≤ 1) :
    Distinct edges := by
  match edges, h with
  | [], _ => exact List.Pairwise.nil
  | [_], _ => exact List.pairwise_singleton _ _

end Transition

namespace State

variable {H : Type}

/-- The states entered from any depth below the state, by an edge of its own. -/
def descents (s : State H) : List StateId := s.rules.map (·.target) ++ s.fallback.toList

def targets (s : State H) : List StateId := s.transitions.map (·.target) ++ s.descents

theorem descents_subset_targets (s : State H) : s.descents ⊆ s.targets :=
  List.subset_append_right _ _

theorem target_mem_descents {s : State H} {edge : Transition} (h : edge ∈ s.rules) :
    edge.target ∈ s.descents :=
  List.mem_append_left _ (List.mem_map_of_mem h)

theorem fallback_mem_descents {s : State H} {t : StateId} (h : s.fallback = some t) :
    t ∈ s.descents :=
  List.mem_append_right _ (by simp [h])

/-- A step to elements at any depth makes one more state that is entered from there. -/
theorem descents_withEdge {s : State H} {h : Hop}
    (hf : h.deep = true → h.test.isTrivial = true → s.fallback = none) (t : StateId) :
    (s.withEdge h t).descents.Perm (if h.deep then t :: s.descents else s.descents) := by
  unfold descents
  rw [rules_withEdge, fallback_withEdge]
  cases hd : h.deep with
  | false => simp
  | true =>
    cases ht : h.test.isTrivial with
    | true =>
      simp only [hf hd ht, Bool.not_true, Bool.and_false, Bool.false_eq_true, Bool.and_self,
        ↓reduceIte, List.append_nil, Option.toList_some, Option.toList_none]
      exact List.perm_append_singleton _ _
    | false =>
      simp only [Bool.not_false, Bool.and_true, Bool.and_false, Bool.false_eq_true, ↓reduceIte,
        List.map_append, List.map_singleton, List.append_assoc, List.singleton_append]
      exact List.perm_middle

theorem descents_successor (s : State H) (above : StateId) (h : Hop) (t : StateId) :
    (s.successor above h t).descents = [] := by
  simp [descents, rules_successor, fallback_successor]

/-- What a new state begins with leads back to a match. -/
theorem mem_targets_successor {s : State H} {above t u : StateId} {h : Hop}
    (hu : u ∈ (s.successor above h t).targets) : u = above ∨ u = t := by
  rw [targets, descents_successor, List.append_nil] at hu
  obtain ⟨edge, he, rfl⟩ := List.mem_map.1 hu
  unfold successor at he
  split at he
  · split at he
    · obtain ⟨test, -, rfl⟩ := List.mem_map.1 he
      exact .inl rfl
    · rw [List.mem_singleton.1 he]
      exact .inr rfl
  · cases he

theorem length_successor_le {s : State H} (hr : s.reentry.length ≤ 1) (above : StateId) (h : Hop)
    (t : StateId) : (s.successor above h t).transitions.length ≤ 1 ∧
      (s.successor above h t).reentry.length ≤ 1 := by
  unfold successor
  cases h.deep <;> cases h.test.isTrivial <;> simp [hr]

end State

namespace Graph

variable {H : Type}

/-- A state of the automaton that is not one of the first few. -/
def Within (g : Graph H) (floor : Nat) (s : StateId) : Prop :=
  floor ≤ s.index ∧ g.contains s = true

theorem Within.mono {g later : Graph H} (hg : g.Extends later) {floor : Nat} {s : StateId}
    (hs : g.Within floor s) : later.Within floor s := by
  have hi : s.index < g.size := of_decide_eq_true hs.2
  exact ⟨hs.1, decide_eq_true (Nat.lt_of_lt_of_le hi hg.size_le)⟩

/-- The first states, up to `floor`, stay blank; all others hang together. -/
structure Coherent (g : Graph H) (floor : Nat) : Prop where
  blank : ∀ s, s.index < floor → g.state s = {}
  /-- No edge leads to a blank state, or out of the automaton. -/
  targets : ∀ s, ∀ t ∈ (g.state s).targets, g.Within floor t
  transitions : ∀ s, Transition.Distinct (g.state s).transitions
  rules : ∀ s, Transition.Distinct (g.state s).rules
  descents : ∀ s, (g.state s).descents.Nodup
  /-- A state is entered from any depth below one other state at most. -/
  owner : ∀ s s' t, t ∈ (g.state s).descents → t ∈ (g.state s').descents → s = s'
  reentry_length : ∀ s, (g.state s).reentry.length ≤ 1
  reentry : ∀ s, ∀ edge ∈ (g.state s).rules, (g.state edge.target).reentry = [edge.test]
  /-- The first child of a match to be tried is the match itself. -/
  again : ∀ s, ∀ edge ∈ (g.state s).rules, (g.state edge.target).transitions.head? = some edge
  /-- So it is in the fallback of a match. -/
  back : ∀ s, ∀ edge ∈ (g.state s).rules, ∀ d, (g.state edge.target).fallback = some d →
    (g.state d).transitions.head? = some edge

/-- A step tells the edges of a state from the one it adds. -/
theorem targetOf?_of_hop? {g : Graph H} {s : StateId} {h : Hop} (hn : g.hop? s h = none) :
    (h.deep = false → Transition.targetOf? (g.state s).transitions h.test = none) ∧
      (h.deep = true → h.test.isTrivial = false →
        Transition.targetOf? (g.state s).rules h.test = none) ∧
      (h.deep = true → h.test.isTrivial = true → (g.state s).fallback = none) := by
  unfold hop? at hn
  refine ⟨fun hd => ?_, fun hd ht => ?_, fun hd ht => ?_⟩
  · simpa [hd] using hn
  · simpa [hd, ht] using hn
  · simpa [hd, ht] using hn

theorem target_mem_of_hop? {g : Graph H} {s t : StateId} {h : Hop} (ht : g.hop? s h = some t) :
    t ∈ (g.state s).targets := by
  unfold hop? at ht
  split at ht
  · apply State.descents_subset_targets
    split at ht
    · exact State.fallback_mem_descents ht
    · obtain ⟨edge, he, -, rfl⟩ := Transition.exists_of_targetOf? ht
      exact State.target_mem_descents he
  · obtain ⟨edge, he, -, rfl⟩ := Transition.exists_of_targetOf? ht
    exact List.mem_append_left _ (List.mem_map_of_mem he)

theorem coherent_initial (floor : Nat) : (initial : Graph H).Coherent floor := by
  constructor <;> simp [state_initial, State.targets, State.descents, Transition.Distinct]

namespace Grown

variable {g later : Graph H} {s : StateId} {h : Hop}

/-- What holds of the state a step is taken from, of the new one and of all others. -/
theorem forall_state (hg : g.Grown later s h) {P : StateId → State H → Prop}
    (source : P s ((g.state s).withEdge h ⟨g.size⟩))
    (new : P ⟨g.size⟩ ((g.state s).successor s h ⟨g.size⟩))
    (other : ∀ t, t ≠ s → t ≠ ⟨g.size⟩ → P t (g.state t)) (t : StateId) : P t (later.state t) := by
  by_cases ht : t = ⟨g.size⟩
  · rw [ht, hg.new]
    exact new
  by_cases hts : t = s
  · rw [hts, hg.source]
    exact source
  · rw [hg.other t hts ht]
    exact other t hts ht

theorem rules_cases (hg : g.Grown later s h) :
    ∀ t, ∀ edge ∈ (later.state t).rules, edge ∈ (g.state t).rules ∨
      t = s ∧ h.deep = true ∧ h.test.isTrivial = false ∧ edge = ⟨h.test, ⟨g.size⟩⟩ := by
  refine hg.forall_state (P := fun t x => ∀ edge ∈ x.rules, edge ∈ (g.state t).rules ∨
    t = s ∧ h.deep = true ∧ h.test.isTrivial = false ∧ edge = ⟨h.test, ⟨g.size⟩⟩)
    ?_ ?_ fun _ _ _ _ he => .inl he
  · intro edge he
    rw [State.rules_withEdge, List.mem_append] at he
    rcases he with he | he
    · exact .inl he
    · split at he
      · rename_i hd
        rw [Bool.and_eq_true, Bool.not_eq_true'] at hd
        exact .inr ⟨rfl, hd.1, hd.2, List.mem_singleton.1 he⟩
      · cases he
  · intro edge he
    rw [State.rules_successor] at he
    cases he

theorem fallback_cases (hg : g.Grown later s h) :
    ∀ t u, (later.state t).fallback = some u → (g.state t).fallback = some u ∨
      t = s ∧ h.deep = true ∧ h.test.isTrivial = true ∧ u = ⟨g.size⟩ := by
  refine hg.forall_state (P := fun t x => ∀ u, x.fallback = some u → (g.state t).fallback = some u ∨
    t = s ∧ h.deep = true ∧ h.test.isTrivial = true ∧ u = ⟨g.size⟩) ?_ ?_ fun _ _ _ _ hu => .inl hu
  · intro u hu
    rw [State.fallback_withEdge] at hu
    split at hu
    · rename_i hd
      rw [Bool.and_eq_true] at hd
      exact .inr ⟨rfl, hd.1, hd.2, (Option.some.inj hu).symm⟩
    · exact .inl hu
  · intro u hu
    rw [State.fallback_successor] at hu
    cases hu

theorem descents_cases (hg : g.Grown later s h) :
    ∀ t, ∀ u ∈ (later.state t).descents, u ∈ (g.state t).descents ∨ t = s ∧ u = ⟨g.size⟩ := by
  intro t u hu
  rcases List.mem_append.1 hu with hu | hu
  · obtain ⟨edge, he, rfl⟩ := List.mem_map.1 hu
    rcases hg.rules_cases t edge he with he | ⟨rfl, -, -, rfl⟩
    · exact .inl (State.target_mem_descents he)
    · exact .inr ⟨rfl, rfl⟩
  · rw [Option.mem_toList] at hu
    rcases hg.fallback_cases t u hu with hf | ⟨rfl, -, -, rfl⟩
    · exact .inl (State.fallback_mem_descents hf)
    · exact .inr ⟨rfl, rfl⟩

theorem transitions_cases (hg : g.Grown later s h) :
    ∀ t, ∀ edge ∈ (later.state t).transitions, edge ∈ (g.state t).transitions ∨
      edge.target = s ∨ edge.target = ⟨g.size⟩ := by
  refine hg.forall_state (P := fun t x => ∀ edge ∈ x.transitions, edge ∈ (g.state t).transitions ∨
    edge.target = s ∨ edge.target = ⟨g.size⟩) ?_ ?_ fun _ _ _ _ he => .inl he
  · intro edge he
    rw [State.transitions_withEdge, List.mem_append] at he
    rcases he with he | he
    · exact .inl he
    · split at he
      · cases he
      · rw [List.mem_singleton.1 he]
        exact .inr (.inr rfl)
  · intro edge he
    exact .inr (State.mem_targets_successor (List.mem_append_left _ (List.mem_map_of_mem he)))

theorem reentry_eq (hg : g.Grown later s h) :
    ∀ t, t ≠ ⟨g.size⟩ → (later.state t).reentry = (g.state t).reentry := by
  refine hg.forall_state (P := fun t x => t ≠ ⟨g.size⟩ → x.reentry = (g.state t).reentry) ?_ ?_ ?_
  · exact fun _ => State.reentry_withEdge _ _ _
  · exact fun ht => absurd rfl ht
  · exact fun _ _ _ _ => rfl

end Grown

namespace Coherent

variable {g later : Graph H} {floor : Nat} {s : StateId} {h : Hop}

theorem ne_size (hc : g.Coherent floor) {t u : StateId} (hu : u ∈ (g.state t).targets) :
    u ≠ ⟨g.size⟩ := by
  rintro rfl
  exact ne_size_of_contains (hc.targets t _ hu).2 rfl

/-- What leads back from a state leads back in every later automaton. -/
theorem head?_of_extends (hg : g.Extends later) {t : StateId} {edge : Transition}
    (h : (g.state t).transitions.head? = some edge) :
    (later.state t).transitions.head? = some edge := by
  obtain ⟨new, hnew⟩ := (hg.state t).transitions
  rw [← hnew, List.head?_append, h, Option.some_or]

theorem ne_size_of_descents (hc : g.Coherent floor) {t u : StateId}
    (hu : u ∈ (g.state t).descents) : u ≠ ⟨g.size⟩ :=
  hc.ne_size (State.descents_subset_targets _ hu)

/-! Each part of the shape after a step, as far as it does not follow at once. -/

theorem within_new (hs : g.Within floor s) (hg : g.Grown later s h) :
    later.Within floor ⟨g.size⟩ := by
  have hi : s.index < g.size := of_decide_eq_true hs.2
  refine ⟨Nat.le_trans hs.1 (Nat.le_of_lt hi), decide_eq_true ?_⟩
  rw [hg.size_eq]
  exact Nat.lt_succ_self _

theorem blank_grow (hc : g.Coherent floor) (hs : g.Within floor s) (hg : g.Grown later s h)
    {t : StateId} (ht : t.index < floor) : later.state t = {} := by
  have hts : t ≠ s := by
    rintro rfl
    exact absurd hs.1 (Nat.not_le.2 ht)
  have htn : t ≠ ⟨g.size⟩ := by
    rintro rfl
    exact absurd (within_new hs hg).1 (Nat.not_le.2 ht)
  rw [hg.other t hts htn]
  exact hc.blank t ht

theorem targets_grow (hc : g.Coherent floor) (hs : g.Within floor s) (hext : g.Extends later)
    (hg : g.Grown later s h) (t : StateId) : ∀ u ∈ (later.state t).targets, later.Within floor u := by
  intro u hu
  have hold : ∀ u ∈ (g.state t).targets, later.Within floor u :=
    fun u hu => (hc.targets t u hu).mono hext
  rcases List.mem_append.1 hu with hu | hu
  · obtain ⟨edge, he, rfl⟩ := List.mem_map.1 hu
    rcases hg.transitions_cases t edge he with he | he | he
    · exact hold _ (List.mem_append_left _ (List.mem_map_of_mem he))
    · rw [he]
      exact hs.mono hext
    · rw [he]
      exact within_new hs hg
  · rcases hg.descents_cases t u hu with hu | ⟨-, rfl⟩
    · exact hold u (State.descents_subset_targets _ hu)
    · exact within_new hs hg

theorem transitions_grow (hc : g.Coherent floor) (hn : g.hop? s h = none)
    (hg : g.Grown later s h) : ∀ t, Transition.Distinct (later.state t).transitions := by
  refine hg.forall_state (P := fun _ x => Transition.Distinct x.transitions) ?_ ?_
    fun t _ _ => hc.transitions t
  · rw [State.transitions_withEdge]
    cases hd : h.deep with
    | true => simpa using hc.transitions s
    | false => exact (hc.transitions s).concat ((targetOf?_of_hop? hn).1 hd)
  · exact .of_length_le_one (State.length_successor_le (hc.reentry_length s) _ _ _).1

theorem rules_grow (hc : g.Coherent floor) (hn : g.hop? s h = none) (hg : g.Grown later s h) :
    ∀ t, Transition.Distinct (later.state t).rules := by
  refine hg.forall_state (P := fun _ x => Transition.Distinct x.rules) ?_ ?_
    fun t _ _ => hc.rules t
  · rw [State.rules_withEdge]
    split
    · rename_i hd
      rw [Bool.and_eq_true, Bool.not_eq_true'] at hd
      exact (hc.rules s).concat ((targetOf?_of_hop? hn).2.1 hd.1 hd.2)
    · simpa using hc.rules s
  · rw [State.rules_successor]
    exact List.Pairwise.nil

theorem descents_grow (hc : g.Coherent floor) (hn : g.hop? s h = none) (hg : g.Grown later s h) :
    ∀ t, (later.state t).descents.Nodup := by
  refine hg.forall_state (P := fun _ x => x.descents.Nodup) ?_ ?_ fun t _ _ => hc.descents t
  · rw [(State.descents_withEdge (targetOf?_of_hop? hn).2.2 _).nodup_iff]
    split
    · exact List.nodup_cons.2 ⟨fun hm => hc.ne_size_of_descents hm rfl, hc.descents s⟩
    · exact hc.descents s
  · rw [State.descents_successor]
    exact List.nodup_nil

theorem owner_grow (hc : g.Coherent floor) (hg : g.Grown later s h) {t t' u : StateId}
    (hu : u ∈ (later.state t).descents) (hu' : u ∈ (later.state t').descents) : t = t' := by
  rcases hg.descents_cases t u hu with hu | ⟨rfl, rfl⟩
  · rcases hg.descents_cases t' u hu' with hu' | ⟨rfl, rfl⟩
    · exact hc.owner t t' u hu hu'
    · exact absurd rfl (hc.ne_size_of_descents hu)
  · rcases hg.descents_cases t' _ hu' with hu' | ⟨rfl, -⟩
    · exact absurd rfl (hc.ne_size_of_descents hu')
    · rfl

theorem reentry_grow (hc : g.Coherent floor) (hg : g.Grown later s h) {t : StateId}
    {edge : Transition} (he : edge ∈ (later.state t).rules) :
    (later.state edge.target).reentry = [edge.test] := by
  rcases hg.rules_cases t edge he with he | ⟨rfl, hd, ht, rfl⟩
  · rw [hg.reentry_eq _ (hc.ne_size_of_descents (State.target_mem_descents he))]
    exact hc.reentry t edge he
  · rw [hg.new]
    simp [State.successor, hd, ht]

theorem again_grow (hc : g.Coherent floor) (hext : g.Extends later) (hg : g.Grown later s h)
    {t : StateId} {edge : Transition} (he : edge ∈ (later.state t).rules) :
    (later.state edge.target).transitions.head? = some edge := by
  rcases hg.rules_cases t edge he with he | ⟨rfl, hd, ht, rfl⟩
  · exact head?_of_extends hext (hc.again t edge he)
  · rw [hg.new]
    simp [State.successor, hd, ht]

theorem back_grow (hc : g.Coherent floor) (hext : g.Extends later) (hg : g.Grown later s h)
    {t d : StateId} {edge : Transition} (he : edge ∈ (later.state t).rules)
    (hf : (later.state edge.target).fallback = some d) :
    (later.state d).transitions.head? = some edge := by
  rcases hg.rules_cases t edge he with he | ⟨rfl, -, -, rfl⟩
  · rcases hg.fallback_cases _ d hf with hf | ⟨heq, hd, ht, rfl⟩
    · exact head?_of_extends hext (hc.back t edge he d hf)
    · -- the new fallback of a match begins with what leads back to it
      rw [hg.new, ← heq, State.successor, hd, ht, hc.reentry t edge he]
      rfl
  · rw [hg.new, State.fallback_successor] at hf
    cases hf

theorem grow (hc : g.Coherent floor) (hs : g.Within floor s) (hn : g.hop? s h = none)
    (hext : g.Extends later) (hg : g.Grown later s h) : later.Coherent floor where
  blank _ ht := hc.blank_grow hs hg ht
  targets := hc.targets_grow hs hext hg
  transitions := hc.transitions_grow hn hg
  rules := hc.rules_grow hn hg
  descents := hc.descents_grow hn hg
  owner _ _ _ hu hu' := hc.owner_grow hg hu hu'
  reentry_length := by
    refine hg.forall_state (P := fun _ x => x.reentry.length ≤ 1) ?_ ?_
      fun t _ _ => hc.reentry_length t
    · rw [State.reentry_withEdge]
      exact hc.reentry_length s
    · exact (State.length_successor_le (hc.reentry_length s) _ _ _).2
  reentry _ _ he := hc.reentry_grow hg he
  again _ _ he := hc.again_grow hext hg he
  back _ _ he _ hf := hc.back_grow hext hg he hf

/-- Compiling a step keeps an automaton coherent and leads to one of its states. -/
theorem extend (hc : g.Coherent floor) (hs : g.Within floor s) (h : Hop) :
    (g.extend s h).2.Coherent floor ∧ (g.extend s h).2.Within floor (g.extend s h).1 := by
  rcases extend_cases hs.2 (hc.reentry_length s) (hc.reentry s) h with ⟨ht, hg⟩ | ⟨hn, ht, hg⟩
  · rw [hg]
    exact ⟨hc, hc.targets s _ (target_mem_of_hop? ht)⟩
  · rw [ht]
    exact ⟨hc.grow hs hn (.extend g s h) hg, within_new hs hg⟩

theorem handlers_extend (hc : g.Coherent floor) (hs : g.Within floor s) (h : Hop) (t : StateId) :
    ((g.extend s h).2.state t).handlers = (g.state t).handlers := by
  rcases extend_cases hs.2 (hc.reentry_length s) (hc.reentry s) h with ⟨-, hg⟩ | ⟨-, -, hg⟩
  · rw [hg]
  · exact hg.handlers_eq t

/-! ### Explicit transitions, handlers and limits -/

/-- A state may get further transitions, and whatever the edges do not depend on may change. -/
theorem update (hc : g.Coherent floor) (hs : floor ≤ s.index) {f : State H → State H}
    (new : List Transition) (ht : (f (g.state s)).transitions = (g.state s).transitions ++ new)
    (hd : Transition.Distinct ((g.state s).transitions ++ new))
    (hw : ∀ edge ∈ new, g.Within floor edge.target)
    (hr : (f (g.state s)).rules = (g.state s).rules)
    (hf : (f (g.state s)).fallback = (g.state s).fallback)
    (he : (f (g.state s)).reentry = (g.state s).reentry) : (g.update s f).Coherent floor := by
  have hext : g.Extends (g.update s f) := by
    exact .update ⟨⟨new, ht.symm⟩, hr ▸ List.prefix_rfl, fun t h => hf.trans h⟩
  have htransitions : ∀ t, ((g.update s f).state t).transitions = (g.state t).transitions ∨
      t = s ∧ ((g.update s f).state t).transitions = (g.state t).transitions ++ new := by
    intro t
    rw [state_update]
    split
    · rename_i h
      rw [h.1, ht]
      exact .inr ⟨rfl, rfl⟩
    · exact .inl rfl
  have hrules : ∀ t, ((g.update s f).state t).rules = (g.state t).rules :=
    rel_state_update (R := fun x y => y.rules = x.rules) hr fun _ => rfl
  have hfallback : ∀ t, ((g.update s f).state t).fallback = (g.state t).fallback :=
    rel_state_update (R := fun x y => y.fallback = x.fallback) hf fun _ => rfl
  have hreentry : ∀ t, ((g.update s f).state t).reentry = (g.state t).reentry :=
    rel_state_update (R := fun x y => y.reentry = x.reentry) he fun _ => rfl
  have hdescents : ∀ t, ((g.update s f).state t).descents = (g.state t).descents := by
    intro t
    rw [State.descents, hrules, hfallback]
    rfl
  constructor
  case blank =>
    intro t hlt
    have hts : t ≠ s := by
      rintro rfl
      exact absurd hs (Nat.not_le.2 hlt)
    rw [state_update_of_ne hts]
    exact hc.blank t hlt
  case targets =>
    intro t u hu
    suffices g.Within floor u from this.mono hext
    rcases List.mem_append.1 hu with hu | hu
    · obtain ⟨edge, hm, rfl⟩ := List.mem_map.1 hu
      rcases htransitions t with htrans | ⟨rfl, htrans⟩
      · rw [htrans] at hm
        exact hc.targets t _ (List.mem_append_left _ (List.mem_map_of_mem hm))
      · rw [htrans, List.mem_append] at hm
        rcases hm with hm | hm
        · exact hc.targets t _ (List.mem_append_left _ (List.mem_map_of_mem hm))
        · exact hw edge hm
    · rw [hdescents] at hu
      exact hc.targets t u (State.descents_subset_targets _ hu)
  case transitions =>
    intro t
    rcases htransitions t with htrans | ⟨rfl, htrans⟩
    · rw [htrans]
      exact hc.transitions t
    · rw [htrans]
      exact hd
  case rules =>
    intro t
    rw [hrules]
    exact hc.rules t
  case descents =>
    intro t
    rw [hdescents]
    exact hc.descents t
  case owner =>
    intro t t' u
    rw [hdescents, hdescents]
    exact hc.owner t t' u
  case reentry_length =>
    intro t
    rw [hreentry]
    exact hc.reentry_length t
  case reentry =>
    intro t
    rw [hrules]
    intro edge hm
    rw [hreentry]
    exact hc.reentry t edge hm
  case again =>
    intro t
    rw [hrules]
    exact fun edge hm => head?_of_extends hext (hc.again t edge hm)
  case back =>
    intro t
    rw [hrules]
    intro edge hm d
    rw [hfallback]
    exact fun hfall => head?_of_extends hext (hc.back t edge hm d hfall)

theorem link (hc : g.Coherent floor) (hs : g.Within floor s) {t : StateId}
    (ht : g.Within floor t) (test : Constraint) : (g.link s test t).2.Coherent floor := by
  unfold Graph.link
  split
  · exact hc
  · rename_i hn
    refine hc.update hs.1 [⟨test, t⟩] rfl ((hc.transitions s).concat hn) ?_ rfl rfl rfl
    intro edge he
    rw [List.mem_singleton.1 he]
    exact ht

/-- What the edges do not depend on may change. -/
theorem update_of_edges (hc : g.Coherent floor) (hs : g.Within floor s) {f : State H → State H}
    (hf : ∀ x, f x = { x with handlers := (f x).handlers, limit := (f x).limit }) :
    (g.update s f).Coherent floor := by
  refine hc.update hs.1 [] ?_ ?_ (fun _ he => by cases he) ?_ ?_ ?_
  · rw [hf, List.append_nil]
  · rw [List.append_nil]
    exact hc.transitions s
  all_goals rw [hf]

theorem attach (hc : g.Coherent floor) (hs : g.Within floor s) (handler : H) :
    (g.attach s handler).Coherent floor :=
  hc.update_of_edges hs fun _ => rfl

theorem setLimit (hc : g.Coherent floor) (hs : g.Within floor s) (limit : Nat) :
    (g.setLimit s limit).Coherent floor :=
  hc.update_of_edges hs fun _ => rfl

end Coherent

/-! ### Matches inside matches -/

/-- An element that passes the test of the first transition follows it, whatever rules are in
scope. -/
theorem resolve_of_head? {g : Graph H} {s : StateId} {edge : Transition}
    (h : (g.state s).transitions.head? = some edge) {fs : Filters} {e : StartElement}
    (he : edge.test.holds fs e = true) (scope : List StateId) :
    g.resolve fs s scope e = edge.target := by
  obtain ⟨rest, hrest⟩ := List.head?_eq_some_iff.1 h
  rw [resolve, State.follow, hrest, Transition.follow_cons_of_holds he]

end Graph
end StreamSelect
