import Mathlib.Data.List.Induction
import StreamSelect.Proofs.Run.Ancestry
import StreamSelect.Proofs.Selection.Matching

/-! Open elements and the steps that made their states. Whatever edge an element follows, it passes
the test of the step that made its state, and the state that step was taken from is that of its
parent or, for a descendant, that of some ancestor. So a chain that leads to its state describes
it. -/
namespace StreamSelect

/-- The elements from the root of the document to the innermost open one. -/
def Frame.path (frames : List Frame) : List StartElement := (frames.map (·.element)).reverse

namespace Machine

variable {B D : Type} {m : Machine B D} {o : Origins}

/-- The ways an element enters a state. -/
theorem entry_cases (m : Machine B D) (above : List Ancestor) (e : StartElement) :
    (∃ edge ∈ (m.state (m.innermost above)).transitions,
      edge.test.holds m.filters e = true ∧ edge.target = m.entry above e) ∨
    (∃ s ∈ m.statesAbove above, ∃ edge ∈ (m.state s).rules,
      edge.test.holds m.filters e = true ∧ edge.target = m.entry above e) ∨
    (∃ s ∈ m.statesAbove above, (m.state s).fallback = some (m.entry above e)) ∨
    m.entry above e = .sink := by
  have hfollow : ∀ {edges : List Transition} {t}, Transition.follow m.filters e edges = some t →
      ∃ edge ∈ edges, edge.test.holds m.filters e = true ∧ edge.target = t := by
    intro edges t ht
    obtain ⟨edge, he, ht⟩ := Option.map_eq_some_iff.1 ht
    have hh := List.find?_some he
    exact ⟨edge, List.mem_of_find?_eq_some he, hh, ht⟩
  rw [entry_eq]
  cases hf : (m.state (m.innermost above)).follow m.filters e with
  | some t => exact .inl (hfollow hf)
  | none =>
    right
    cases hr : (m.statesAbove above).findSome? fun s => (m.state s).followRules m.filters e with
    | none => exact .inr (.inr rfl)
    | some t =>
      obtain ⟨s, hm, ht⟩ := List.exists_of_findSome?_eq_some hr
      rcases Option.or_eq_some_iff.1 ht with hrule | ⟨-, hfb⟩
      · exact .inl ⟨s, hm, hfollow hrule⟩
      · exact .inr (.inl ⟨s, hm, hfb⟩)

/-- The element of a frame passes the test of the step that made its state, which was taken from
the state around it or, for a descendant, from one further out. -/
structure Grounded (m : Machine B D) (o : Origins) (f : Frame) (outer : List Frame) : Prop where
  ne_root : f.state ≠ .root
  passes : ∀ {s hop}, o f.state = some (s, hop) → hop.test.holds m.filters f.element = true
  child : ∀ {s hop}, o f.state = some (s, hop) → hop.deep = false →
    m.innermost (outer.map Frame.ancestor) = s
  descendant : ∀ {s hop}, o f.state = some (s, hop) → hop.deep = true →
    s ∈ m.statesAbove (outer.map Frame.ancestor)

def GroundedAll (m : Machine B D) (o : Origins) (frames : List Frame) : Prop :=
  ∀ f outer, f :: outer <:+ frames → m.Grounded o f outer

theorem GroundedAll.suffix {frames inner : List Frame} (h : m.GroundedAll o frames)
    (hs : inner <:+ frames) : m.GroundedAll o inner :=
  fun f outer hf => h f outer (hf.trans hs)

theorem mem_statesAbove {frames : List Frame} {s : StateId} :
    s ∈ m.statesAbove (frames.map Frame.ancestor) ↔
      ∃ outer, outer <:+ frames ∧ m.innermost (outer.map Frame.ancestor) = s := by
  induction frames with
  | nil =>
    have hn : m.statesAbove (([] : List Frame).map Frame.ancestor) = [m.model.root] := rfl
    rw [hn, List.mem_singleton]
    constructor
    · rintro rfl
      exact ⟨[], List.suffix_rfl, rfl⟩
    · rintro ⟨outer, ho, rfl⟩
      rw [List.suffix_nil.1 ho]
      rfl
  | cons f frames ih =>
    have hc : m.statesAbove ((f :: frames).map Frame.ancestor) =
      f.state :: m.statesAbove (frames.map Frame.ancestor) := rfl
    rw [hc, List.mem_cons, ih]
    constructor
    · rintro (rfl | ⟨outer, ho, hi⟩)
      · exact ⟨f :: frames, List.suffix_rfl, rfl⟩
      · exact ⟨outer, ho.trans (List.suffix_cons f frames), hi⟩
    · rintro ⟨outer, ho, hi⟩
      rcases List.suffix_cons_iff.1 ho with rfl | ho
      · exact .inl hi.symm
      · exact .inr ⟨outer, ho, hi⟩

theorem statesAbove_mono {outer frames : List Frame} (h : outer <:+ frames) {s : StateId}
    (hs : s ∈ m.statesAbove (outer.map Frame.ancestor)) :
    s ∈ m.statesAbove (frames.map Frame.ancestor) := by
  obtain ⟨further, hf, hi⟩ := mem_statesAbove.1 hs
  exact mem_statesAbove.2 ⟨further, hf.trans h, hi⟩

section

variable (ha : m.model.graph.Arranged o) (hroot : m.model.root = .root)
include ha hroot

/-- A state with an origin is the state of an open element, below the state it was made from. -/
theorem origin_mem_statesAbove {frames : List Frame} (h : m.GroundedAll o frames)
    {s above : StateId} {hop : Hop} (hs : s ∈ m.statesAbove (frames.map Frame.ancestor))
    (ho : o s = some (above, hop)) :
    above ∈ m.statesAbove (frames.map Frame.ancestor) := by
  obtain ⟨inner, hi, hin⟩ := mem_statesAbove.1 hs
  cases inner with
  | nil =>
    have hr : s = .root := hin.symm.trans hroot
    rw [hr, ha.origin_root] at ho
    cases ho
  | cons f outer =>
    have hf : f.state = s := hin
    have hg := h f outer hi
    have hout : outer <:+ frames := (List.suffix_cons f outer).trans hi
    rw [← hf] at ho
    cases hd : hop.deep with
    | false => exact mem_statesAbove.2 ⟨outer, hout, hg.child ho hd⟩
    | true => exact statesAbove_mono hout (hg.descendant ho hd)

/-- An element enters the sink, or a state whose step accepts it from where it stands. -/
theorem origin_entry {frames : List Frame} (h : m.GroundedAll o frames) (e : StartElement) :
    m.entry (frames.map Frame.ancestor) e = .sink ∨
      ∃ s hop, o (m.entry (frames.map Frame.ancestor) e) = some (s, hop) ∧
        hop.test.holds m.filters e = true ∧
        (hop.deep = false → m.innermost (frames.map Frame.ancestor) = s) ∧
        (hop.deep = true → s ∈ m.statesAbove (frames.map Frame.ancestor)) := by
  have hcur : m.innermost (frames.map Frame.ancestor) ∈ m.statesAbove (frames.map Frame.ancestor) :=
    mem_statesAbove.2 ⟨frames, List.suffix_rfl, rfl⟩
  rcases m.entry_cases (frames.map Frame.ancestor) e with
    ⟨edge, he, ht, heq⟩ | ⟨s, hs, edge, he, ht, heq⟩ | ⟨s, hs, hf⟩ | hsink
  · right
    rw [← heq]
    obtain ⟨own, hown, ho⟩ := ha.transitions (m.innermost (frames.map Frame.ancestor))
    have he' : edge ∈ o.loops (m.innermost (frames.map Frame.ancestor)) ++ own := hown ▸ he
    rcases List.mem_append.1 he' with he' | he'
    · -- an edge back: the match it leads to was made from a state further out
      obtain ⟨top, hot, -, hback⟩ := Origins.mem_loops he'
      have hmatch : edge.target ∈ m.statesAbove (frames.map Frame.ancestor) := by
        rcases hback with hself | hfallback
        · rw [hself]
          exact hcur
        · exact origin_mem_statesAbove ha hroot h hcur hfallback
      have htop := origin_mem_statesAbove ha hroot h hmatch hot
      exact ⟨top, _, hot, ht, nofun, fun _ => htop⟩
    · exact ⟨_, _, ho edge he', ht, fun _ => rfl, nofun⟩
  · right
    rw [← heq]
    exact ⟨s, _, (ha.rules s edge he).1, ht, nofun, fun _ => hs⟩
  · exact .inr ⟨s, _, ha.fallback s _ hf, rfl, nofun, fun _ => hs⟩
  · exact .inl hsink

/-- An element that opens is grounded. -/
theorem grounded_entry {frames : List Frame} (h : m.GroundedAll o frames) {f : Frame}
    (hf : f.state = m.entry (frames.map Frame.ancestor) f.element) : m.Grounded o f frames := by
  rcases origin_entry ha hroot h f.element with hs | ⟨s, hop, ho, ht, hc, hd⟩
  · have hnone : o f.state = none := by rw [hf, hs, ha.origin_sink]
    refine ⟨?_, fun ho => ?_, fun ho => ?_, fun ho => ?_⟩
    · rw [hf, hs]
      decide
    all_goals
      rw [hnone] at ho
      cases ho
  · rw [← hf] at ho
    have heq : ∀ {s' hop'}, o f.state = some (s', hop') → s' = s ∧ hop' = hop := by
      intro s' hop' ho'
      exact Prod.mk.inj (Option.some.inj (ho'.symm.trans ho))
    refine ⟨fun hr => ?_, fun ho' => ?_, fun ho' => ?_, fun ho' => ?_⟩
    · rw [hr, ha.origin_root] at ho
      cases ho
    all_goals
      obtain ⟨rfl, rfl⟩ := heq ho'
    · exact ht
    · exact hc
    · exact hd

theorem groundedAll_of_enteredAll {frames : List Frame} (h : m.EnteredAll frames) :
    m.GroundedAll o frames := by
  induction frames with
  | nil =>
    intro f outer hf
    cases List.suffix_nil.1 hf
  | cons f frames ih =>
    have hg := ih (h.suffix (List.suffix_cons f frames))
    intro f' outer hf
    rcases List.suffix_cons_iff.1 hf with hf | hf
    · obtain ⟨rfl, rfl⟩ := List.cons.inj hf
      exact grounded_entry ha hroot hg (h f' outer List.suffix_rfl)
    · exact hg f' outer hf

theorem groundedAll_play (events : List Event) (d : D) :
    m.GroundedAll o (m.play events {} d).run.frames :=
  groundedAll_of_enteredAll ha hroot (m.enteredAll_play events d)

/-- A separated chain describes the innermost of open elements whose state it leads to. -/
theorem matches_of_reach? (hf : m.filters.IgnoreQualifiers) {chain : Chain}
    (hsep : chain.Separated) {frames : List Frame} (hg : m.GroundedAll o frames)
    (hr : m.model.graph.reach? .root chain = some (m.innermost (frames.map Frame.ancestor))) :
    chain.Matches m.filters (Frame.path frames) := by
  induction chain using List.reverseRecOn generalizing frames with
  | nil =>
    have hroot' : m.innermost (frames.map Frame.ancestor) = .root := (Option.some.inj hr).symm
    cases frames with
    | nil => exact Chain.matches_nil _
    | cons f outer => exact absurd hroot' (hg f outer List.suffix_rfl).ne_root
  | append_singleton chain hop ih =>
    obtain ⟨above, made, habove, ho, hdeep, htest⟩ := ha.origin_of_reach? hsep hr
    cases frames with
    | nil =>
      have hinner : m.innermost (([] : List Frame).map Frame.ancestor) = .root := hroot
      rw [hinner, ha.origin_root] at ho
      cases ho
    | cons f outer =>
      have hgf := hg f outer List.suffix_rfl
      have hout : outer <:+ f :: outer := List.suffix_cons f outer
      have hpass : hop.test.holds m.filters f.element = true :=
        (Constraint.holds_congr hf f.element htest).symm.trans (hgf.passes ho)
      have hpath : Frame.path (f :: outer) = Frame.path outer ++ [f.element] := by
        simp [Frame.path]
      cases hd : made.deep with
      | false =>
        have hc := hgf.child ho hd
        have hm := ih hsep.of_append (hg.suffix hout) (hc ▸ habove)
        rw [hpath, ← List.append_nil (Frame.path outer)]
        exact hm.concat (fun _ => rfl) hpass
      | true =>
        obtain ⟨further, hfur, hin⟩ := mem_statesAbove.1 (hgf.descendant ho hd)
        have hm := ih hsep.of_append (hg.suffix (hfur.trans hout)) (hin ▸ habove)
        obtain ⟨between, hbetween⟩ := hfur
        have hpath' : Frame.path outer = Frame.path further ++ Frame.path between := by
          simp [Frame.path, ← hbetween]
        rw [hpath, hpath']
        refine hm.concat (fun hd' => ?_) hpass
        rw [← hdeep, hd] at hd'
        cases hd'

end

end Machine
end StreamSelect
