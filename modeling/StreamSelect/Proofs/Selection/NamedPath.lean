import Mathlib.Data.List.Induction
import StreamSelect.Proofs.Automaton.Likeness
import StreamSelect.Proofs.Run.Elements
import StreamSelect.Proofs.Selection.Grounding

/-! Paths of names. A path of steps to named children leads an element to a state exactly if the
names from the document element down to it are those of the path, whatever else the automaton was
extended by. -/
namespace StreamSelect

open List (Forall₂)

/-- The names of open elements, given innermost first, from the document element down. -/
def namePath (elements : List StartElement) : List Name := (elements.map (·.name)).reverse

/-- The steps of a path to named children. -/
def childChain (path : List Name) : Chain := path.map fun n => ⟨false, .name n⟩

/-- Paths are equal if their names are the same ones. -/
theorem names_beq_iff {xs ys : List Name} :
    (xs == ys) = true ↔ xs.map Name.key = ys.map Name.key := by
  induction xs generalizing ys with
  | nil => cases ys <;> simp
  | cons x xs ih =>
    cases ys with
    | nil => simp
    | cons y ys =>
      rw [List.cons_beq_cons, Bool.and_eq_true, ih, Name.beq_iff_key, List.map_cons, List.map_cons,
        List.cons.injEq]

instance : EquivBEq (List Name) where
  rfl := names_beq_iff.2 rfl
  symm h := names_beq_iff.2 (names_beq_iff.1 h).symm
  trans h k := names_beq_iff.2 ((names_beq_iff.1 h).trans (names_beq_iff.1 k))

theorem append_beq_append {v w x y : List Name} (h : (v == w) = true) (k : (x == y) = true) :
    (v ++ x == w ++ y) = true := by
  rw [names_beq_iff] at h k ⊢
  rw [List.map_append, List.map_append, h, k]

theorem append_beq_append_left {v x y : List Name} (h : (v ++ x == v ++ y) = true) :
    (x == y) = true := by
  rw [names_beq_iff, List.map_append, List.map_append] at h
  exact names_beq_iff.2 (List.append_cancel_left h)

theorem namePath_cons (e : StartElement) (outer : List StartElement) :
    namePath (e :: outer) = namePath outer ++ [e.name] := by
  simp [namePath]

theorem childChain_concat (path : List Name) (n : Name) :
    childChain (path ++ [n]) = childChain path ++ [⟨false, .name n⟩] := by
  simp [childChain]

theorem childChain_append (v w : List Name) :
    childChain (v ++ w) = childChain v ++ childChain w :=
  List.map_append

/-- Paths of names are written alike if their names are the same ones. -/
theorem same_childChain_iff {v w : List Name} :
    Forall₂ Hop.Same (childChain v) (childChain w) ↔ (v == w) = true := by
  induction v generalizing w with
  | nil => cases w <;> simp [childChain]
  | cons a v ih =>
    cases w with
    | nil => simp [childChain]
    | cons b w =>
      have hhop : Hop.Same ⟨false, .name a⟩ ⟨false, .name b⟩ ↔ (a == b) = true :=
        ⟨fun h => h.2, fun h => ⟨rfl, h⟩⟩
      rw [List.cons_beq_cons, Bool.and_eq_true, ← ih, ← hhop]
      exact List.forall₂_cons

/-- A path of children repeats no test of a descendant. -/
theorem separated_childChain (path : List Name) : (childChain path).Separated := by
  have hchild : ∀ hop ∈ childChain path, hop.deep = false := by
    intro hop hm
    obtain ⟨n, -, rfl⟩ := List.mem_map.1 hm
    rfl
  refine ⟨fun hi => ?_, fun hi => ?_⟩
  all_goals
    have hd := hchild _ (hi.subset List.mem_cons_self)
    cases hd

/-- The transitions of all states test names alone. -/
def Graph.Named {H : Type} (g : Graph H) : Prop :=
  ∀ s, ∀ edge ∈ (g.state s).transitions, ∃ n, edge.test = .name n

/-- Where edges test names alone, the edge an element follows is the one for its name. -/
theorem Transition.follow_of_targetOf? {edges later : List Transition}
    (h : ∀ edge ∈ edges, ∃ n, edge.test = .name n) (hl : edges <+: later) {fs : Filters}
    {e : StartElement} {n : Name} (he : (e.name == n) = true) {t : StateId}
    (ht : targetOf? edges (.name n) = some t) : follow fs e later = some t := by
  obtain ⟨more, rfl⟩ := hl
  induction edges with
  | nil => cases ht
  | cons edge edges ih =>
    obtain ⟨k, hk⟩ := h edge List.mem_cons_self
    have hsame : edge.test.holds fs e = (edge.test == .name n) := by
      rw [hk, Constraint.holds, BEq.congr_left he]
      exact BEq.comm
    rw [targetOf?, List.find?_cons] at ht
    rw [follow, List.cons_append, List.find?_cons, hsame]
    cases hb : edge.test == .name n with
    | true =>
      rw [hb] at ht
      exact ht
    | false =>
      rw [hb] at ht
      exact ih (fun edge hm => h edge (List.mem_cons_of_mem _ hm)) ht

/-- They follow exactly the edge for their name. -/
theorem Transition.follow_eq_targetOf? {edges : List Transition}
    (h : ∀ edge ∈ edges, ∃ n, edge.test = .name n) (fs : Filters) (e : StartElement) :
    follow fs e edges = targetOf? edges (.name e.name) := by
  induction edges with
  | nil => rfl
  | cons edge edges ih =>
    obtain ⟨n, hn⟩ := h edge List.mem_cons_self
    have hsame : edge.test.holds fs e = (edge.test == .name e.name) := by
      rw [hn]
      exact BEq.comm
    have hrest := ih fun edge hm => h edge (List.mem_cons_of_mem _ hm)
    unfold follow targetOf? at hrest ⊢
    rw [List.find?_cons, List.find?_cons, hsame]
    cases edge.test == .name e.name with
    | true => rfl
    | false => exact hrest

namespace Machine

variable {B D : Type} {m : Machine B D} {path : List Name} {s : StateId} {frames : List Frame}

/-- An element whose names are those of a path is in the state the path leads to. Later edges do
not matter: those of the path come first. -/
theorem innermost_of_names {g : Graph (HandlerRef B)} (hn : g.Named)
    (hg : g.Extends m.model.graph) (hroot : m.model.root = .root) (he : m.EnteredAll frames)
    (hr : g.reach? .root (childChain path) = some s)
    (hp : (namePath (frames.map (·.element)) == path) = true) :
    m.innermost (frames.map Frame.ancestor) = s := by
  rw [names_beq_iff] at hp
  induction frames generalizing path s with
  | nil =>
    cases path with
    | nil => exact hroot.trans (Option.some.inj hr)
    | cons n path => cases hp
  | cons f outer ih =>
    rw [List.map_cons, namePath_cons, List.map_append] at hp
    rcases path.eq_nil_or_concat' with rfl | ⟨front, n, rfl⟩
    · simp at hp
    rw [List.map_append] at hp
    obtain ⟨hfront, hlast⟩ := List.append_inj' hp rfl
    rw [childChain_concat, Graph.reach?_concat] at hr
    obtain ⟨above, habove, hhop⟩ := Option.bind_eq_some_iff.1 hr
    have hinner := ih (he.suffix (List.suffix_cons f outer)) habove hfront
    have hname : (f.element.name == n) = true :=
      Name.beq_iff_key.2 (List.singleton_inj.1 hlast)
    have hfollow : (m.state above).follow m.filters f.element = some s :=
      Transition.follow_of_targetOf? (hn above) (hg.state above).transitions hname hhop
    show f.state = s
    rw [he f outer List.suffix_rfl, entry_eq, hinner, hfollow]
    rfl

/-- An element in the state a path leads to has the names of the path. -/
theorem names_of_reach? {o : Origins} (ha : m.model.graph.Arranged o)
    (hroot : m.model.root = .root) (hg : m.GroundedAll o frames)
    (hr : m.model.graph.reach? .root (childChain path) =
      some (m.innermost (frames.map Frame.ancestor))) :
    (namePath (frames.map (·.element)) == path) = true := by
  rw [names_beq_iff]
  induction path using List.reverseRecOn generalizing frames with
  | nil =>
    have hinner : m.innermost (frames.map Frame.ancestor) = .root := (Option.some.inj hr).symm
    cases frames with
    | nil => rfl
    | cons f outer => exact absurd hinner (hg f outer List.suffix_rfl).ne_root
  | append_singleton front n ih =>
    have hsep := separated_childChain (front ++ [n])
    rw [childChain_concat] at hr hsep
    obtain ⟨above, ⟨deep, test⟩, habove, ho, hdeep, htest⟩ := ha.origin_of_reach? hsep hr
    obtain rfl : deep = false := hdeep
    cases frames with
    | nil =>
      have hinner : m.innermost (([] : List Frame).map Frame.ancestor) = .root := hroot
      rw [hinner, ha.origin_root] at ho
      cases ho
    | cons f outer =>
      have hgf := hg f outer List.suffix_rfl
      have hpass : test.holds m.filters f.element = true := hgf.passes ho
      have houter := hgf.child ho rfl
      have hfront := ih (hg.suffix (List.suffix_cons f outer)) (houter ▸ habove)
      have hname : f.element.name.key = n.key := by
        cases test with
        | name k =>
          have hk : (f.element.name == k) = true := hpass
          exact (Name.beq_iff_key.1 hk).trans (Name.beq_iff_key.1 htest)
        | _ => cases htest
      rw [List.map_cons, namePath_cons, List.map_append, List.map_append, hfront, List.map_singleton,
        List.map_singleton, hname]

/-- The elements in the state of a path are those with its names. -/
theorem innermost_eq_iff {g : Graph (HandlerRef B)} (hn : g.Named)
    (hg : g.Extends m.model.graph) {o : Origins} (ha : m.model.graph.Arranged o)
    (hroot : m.model.root = .root) (he : m.EnteredAll frames)
    (hr : g.reach? .root (childChain path) = some s) :
    m.innermost (frames.map Frame.ancestor) = s ↔
      (namePath (frames.map (·.element)) == path) = true := by
  refine ⟨fun hs => ?_, innermost_of_names hn hg hroot he hr⟩
  apply names_of_reach? ha hroot (groundedAll_of_enteredAll ha hroot he)
  rw [hs]
  exact Graph.reach?_of_extends hg hr

end Machine
end StreamSelect
