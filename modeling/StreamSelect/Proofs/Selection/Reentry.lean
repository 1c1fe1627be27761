import Mathlib.Data.List.Permutation
import StreamSelect.Proofs.Building.Nested
import StreamSelect.Proofs.Selection.Grounding

-- `List.Permutation` has the equations of pairs that `cbv` evaluates the example below with.

/-! Matches inside matches. Below the state of a match and below its fallback, an element that
passes the test of the match enters the state of the match again. Under any other state the rules in
scope decide, and the fallback of the match may take such an element. -/
namespace StreamSelect

open Construction (CompiledFor Scopes)

namespace Graph.Arranged

variable {H : Type} {g : Graph H} {o : Origins} {s x fallback : StateId} {test : Constraint}

/-- The states of a match and of its fallback begin with the edge back to the match. -/
theorem follow_of_match (ha : g.Arranged o) (ho : o x = some (s, ⟨true, test⟩))
    (ht : test.isTrivial = false) {fs : Filters} {e : StartElement} (he : test.holds fs e = true) :
    (g.state x).follow fs e = some x ∧
      ∀ d, (g.state x).fallback = some d → (g.state d).follow fs e = some x := by
  have hfollow : ∀ {t}, o.loops t = [⟨test, x⟩] → (g.state t).follow fs e = some x := by
    intro t hl
    obtain ⟨own, hown, -⟩ := ha.transitions t
    rw [State.follow, hown, hl]
    exact Transition.follow_cons_of_holds he own
  refine ⟨hfollow (Origins.loops_of_match ho ht), fun d hd => hfollow ?_⟩
  rw [Origins.loops_of_fallback (ha.fallback x d hd), Origins.returning_of_match ho ht]
  rfl

/-- A chain that ends with the test leads to such a state. -/
theorem follow_of_reach? (ha : g.Arranged o) {fs : Filters} (hf : fs.IgnoreQualifiers)
    {chain : Chain} (hr : g.reach? .root (chain ++ [⟨true, test⟩]) = some x)
    (ht : test.isTrivial = false) {e : StartElement} (he : test.holds fs e = true)
    (hx : (g.state x).fallback = some fallback) :
    (g.state x).follow fs e = some x ∧ (g.state fallback).follow fs e = some x := by
  rw [reach?_concat] at hr
  obtain ⟨s, -, hhop⟩ := Option.bind_eq_some_iff.1 hr
  rcases ha.hop?_cases hhop with ⟨⟨deep, made⟩, ho, hdeep, htest⟩ | ⟨hchild, -⟩
  · obtain rfl : deep = true := hdeep
    have hmade : made.isTrivial = false := (Constraint.isTrivial_congr htest).trans ht
    have hpass : made.holds fs e = true := (Constraint.holds_congr hf e htest).trans he
    obtain ⟨hself, hback⟩ := ha.follow_of_match ho hmade hpass
    exact ⟨hself, hback fallback hx⟩
  · cases hchild

/-- No edge leads to a fallback but the one that made it. -/
theorem source_of_fallback (ha : g.Arranged o) (hx : (g.state x).fallback = some fallback) :
    (∀ s, ∀ edge ∈ (g.state s).transitions, edge.target ≠ fallback) ∧
      (∀ s, ∀ edge ∈ (g.state s).rules, edge.target ≠ fallback) ∧
      ∀ s, (g.state s).fallback = some fallback → s = x := by
  have ho := ha.fallback x fallback hx
  refine ⟨fun s edge he hd => ?_, fun s edge he hd => ?_, fun s hs => ?_⟩
  · obtain ⟨own, hown, hmade⟩ := ha.transitions s
    rw [hown] at he
    rcases List.mem_append.1 he with he | he
    · obtain ⟨above, hback, htriv, -⟩ := Origins.mem_loops he
      rw [hd, ho, Option.some.injEq, Prod.mk.injEq, Hop.mk.injEq] at hback
      rw [← hback.2.2] at htriv
      cases htriv
    · have hown' := hmade edge he
      rw [hd, ho] at hown'
      cases hown'
  · obtain ⟨hrule, htriv⟩ := ha.rules s edge he
    rw [hd, ho, Option.some.injEq, Prod.mk.injEq, Hop.mk.injEq] at hrule
    rw [← hrule.2.2] at htriv
    cases htriv
  · have hs' := ha.fallback s fallback hs
    rw [ho] at hs'
    cases hs'
    rfl

end Graph.Arranged

namespace Machine

variable {B D : Type} {m : Machine B D}

/-- What an element needs to fall to the fallback of a state: its parent's state lets it go, and the
state is the nearest one above whose rules take it. -/
structure Falls (m : Machine B D) (above : List Ancestor) (e : StartElement) (x : StateId) :
    Prop where
  passed : (m.state (m.innermost above)).follow m.filters e = none
  nearest : ∃ nearer further, m.statesAbove above = nearer ++ x :: further ∧
    ∀ s ∈ nearer, (m.state s).followRules m.filters e = none
  rules : Transition.follow m.filters e (m.state x).rules = none

theorem entry_eq_fallback_iff {o : Origins} (ha : m.model.graph.Arranged o) {x fallback : StateId}
    (hx : (m.state x).fallback = some fallback) (above : List Ancestor) (e : StartElement) :
    m.entry above e = fallback ↔ m.Falls above e x := by
  obtain ⟨htrans, hrules, hfall⟩ := ha.source_of_fallback hx
  constructor
  · intro h
    have hpassed : (m.state (m.innermost above)).follow m.filters e = none := by
      cases hf : (m.state (m.innermost above)).follow m.filters e with
      | none => rfl
      | some t =>
        rw [entry_eq, hf, Option.getD_some] at h
        obtain ⟨edge, he, ht⟩ := Option.map_eq_some_iff.1 hf
        exact absurd (ht.trans h) (htrans _ edge (List.mem_of_find?_eq_some he))
    rw [entry_eq, hpassed, Option.getD_none] at h
    cases hs : (m.statesAbove above).findSome? fun s => (m.state s).followRules m.filters e with
    | none =>
      -- the sink is no fallback
      rw [hs, Option.getD_none] at h
      have ho := ha.fallback x fallback hx
      rw [← h, ha.origin_sink] at ho
      cases ho
    | some t =>
      rw [hs, Option.getD_some] at h
      obtain ⟨nearer, s, further, hsplit, ht, hnearer⟩ := List.findSome?_eq_some_iff.1 hs
      rcases Option.or_eq_some_iff.1 ht with hrule | ⟨hnone, hfb⟩
      · obtain ⟨edge, he, htarget⟩ := Option.map_eq_some_iff.1 hrule
        exact absurd (htarget.trans h) (hrules _ edge (List.mem_of_find?_eq_some he))
      · obtain rfl : s = x := hfall s (h ▸ hfb)
        exact ⟨hpassed, ⟨nearer, further, hsplit, hnearer⟩, hnone⟩
  · rintro ⟨hpassed, ⟨nearer, further, hsplit, hnearer⟩, hrule⟩
    have hs : (m.statesAbove above).findSome? (fun s => (m.state s).followRules m.filters e) =
        some fallback := by
      refine List.findSome?_eq_some_iff.2 ⟨nearer, x, further, hsplit, ?_, hnearer⟩
      rw [State.followRules, hrule, hx]
      rfl
    rw [entry_eq, hpassed, hs]
    rfl

/-- No step leads on from a match or from its fallback: all edges there lead back to the match. -/
structure Enclosed (m : Machine B D) (x fallback : StateId) : Prop where
  fallback_eq : (m.state x).fallback = some fallback
  rules : (m.state x).rules = []
  back : ∀ edge ∈ (m.state x).transitions, edge.target = x
  fallbackBack : ∀ edge ∈ (m.state fallback).transitions, edge.target = x
  quiet : (m.state fallback).declaresRules = false

theorem head?_statesAbove (m : Machine B D) (above : List Ancestor) :
    (m.statesAbove above).head? = some (m.innermost above) := by
  cases above <;> rfl

namespace Enclosed

variable {x fallback : StateId} {nearer further : List StateId} {above : List Ancestor}

theorem innermost (hs : m.statesAbove above = nearer ++ x :: further)
    (hn : ∀ s ∈ nearer, s = fallback) :
    m.innermost above = x ∨ m.innermost above = fallback := by
  have hhead := m.head?_statesAbove above
  rw [hs] at hhead
  cases nearer with
  | nil => exact .inl (Option.some.inj hhead).symm
  | cons s nearer =>
    have hinner : m.innermost above = s := (Option.some.inj hhead).symm
    exact .inr (hinner.trans (hn s List.mem_cons_self))

theorem entry (h : m.Enclosed x fallback) (hs : m.statesAbove above = nearer ++ x :: further)
    (hn : ∀ s ∈ nearer, s = fallback) (e : StartElement) :
    m.entry above e = x ∨ m.entry above e = fallback := by
  rw [entry_eq]
  cases hf : (m.state (m.innermost above)).follow m.filters e with
  | some t =>
    left
    obtain ⟨edge, he, rfl⟩ := Option.map_eq_some_iff.1 hf
    have hedge := List.mem_of_find?_eq_some he
    rcases innermost hs hn with hi | hi
    · exact h.back edge (hi ▸ hedge)
    · exact h.fallbackBack edge (hi ▸ hedge)
  | none =>
    right
    have hquiet : ∀ s ∈ nearer, (m.state s).followRules m.filters e = none := by
      intro s hm
      rw [hn s hm]
      exact State.followRules_eq_none_of_not_declaresRules h.quiet m.filters e
    have hfall : (m.state x).followRules m.filters e = some fallback := by
      rw [State.followRules, h.rules, h.fallback_eq]
      rfl
    rw [hs, List.findSome?_append, List.findSome?_eq_none_iff.2 hquiet, Option.none_or,
      List.findSome?_cons, hfall]
    rfl

/-- Between the innermost match and the innermost element there are elements in its fallback
alone. -/
theorem statesAbove (h : m.Enclosed x fallback) {frames : List Frame} (he : m.EnteredAll frames)
    (hx : x ∈ m.statesAbove (frames.map Frame.ancestor)) :
    ∃ nearer further, m.statesAbove (frames.map Frame.ancestor) = nearer ++ x :: further ∧
      ∀ s ∈ nearer, s = fallback := by
  induction frames with
  | nil =>
    obtain rfl : x = m.model.root := List.mem_singleton.1 hx
    exact ⟨[], [], rfl, fun s hs => by cases hs⟩
  | cons f frames ih =>
    have hcons : m.statesAbove ((f :: frames).map Frame.ancestor) =
        f.state :: m.statesAbove (frames.map Frame.ancestor) := rfl
    rw [hcons] at hx ⊢
    by_cases hm : f.state = x
    · exact ⟨[], _, congrArg (· :: _) hm, fun s hs => by cases hs⟩
    · have hx' := (List.mem_cons.1 hx).resolve_left (Ne.symm hm)
      obtain ⟨nearer, further, hs, hn⟩ := ih (he.suffix (List.suffix_cons f frames)) hx'
      have hentry := he f frames List.suffix_rfl
      have hf : f.state = fallback :=
        hentry.trans ((h.entry hs hn f.element).resolve_left (hentry ▸ hm))
      refine ⟨f.state :: nearer, further, by rw [hs, List.cons_append], fun s hm => ?_⟩
      rcases List.mem_cons.1 hm with rfl | hm
      · exact hf
      · exact hn s hm

end Enclosed

/-- Let a descendant with a test be compiled to `x`. In every run an element that passes the test
enters the fallback of `x` exactly if its parent's state lets it go and `x` is the nearest state
above whose rules take it. This cannot be if its parent is in `x` or in the fallback, from where it
enters `x` again, and never is if no other step leads on from there; filters of values may not look
at how a name is qualified. -/
theorem target_of_match [DecidableEq B] {n : Nat} {ds : List (Declaration B)}
    {declared : B → Nat → List (Declaration B)} {settings : BuildSettings}
    (hds : ∀ d ∈ ds, d.isStepwise = true)
    (hd : ∀ b k, ∀ d ∈ declared b k, d.isStepwise = true)
    (hm : (((Builder.ofModel n).performEach ds).2.construct declared settings).model = .ok m.model)
    (events : List Event) (d : D) {chain : Chain} {test : Constraint} {x fallback : StateId}
    (ht : test.isTrivial = false)
    (hx : CompiledFor (Scopes declared settings.maxHandlerBuilds
      ((Builder.ofModel n).performEach ds).2) x (chain ++ [⟨true, test⟩]))
    (hfallback : (m.state x).fallback = some fallback) {e : StartElement}
    (he : test.holds m.filters e = true) :
    (m.target (m.play events {} d).run e = fallback ↔
      m.Falls (m.play events {} d).run.ancestors e x) ∧
    (m.filters.IgnoreQualifiers →
      (m.current (m.play events {} d).run = x ∨ m.current (m.play events {} d).run = fallback →
        m.target (m.play events {} d).run e = x) ∧
      (m.Enclosed x fallback → m.target (m.play events {} d).run e ≠ fallback)) := by
  obtain ⟨⟨o, ha⟩, -, hreach, -⟩ := Construction.reach?_of_compiledFor hds hd rfl hm
  have hfalls : m.target (m.play events {} d).run e = fallback ↔
      m.Falls (m.play events {} d).run.ancestors e x := by
    rw [target_play]
    exact entry_eq_fallback_iff ha hfallback _ e
  refine ⟨hfalls, fun hf => ?_⟩
  have hfollow := ha.follow_of_reach? hf (hreach x _ hx) ht he hfallback
  have hagain : m.current (m.play events {} d).run = x ∨
      m.current (m.play events {} d).run = fallback →
        (m.state (m.current (m.play events {} d).run)).follow m.filters e = some x := by
    rintro (hc | hc) <;> rw [hc]
    · exact hfollow.1
    · exact hfollow.2
  refine ⟨fun hc => ?_, fun henc htarget => ?_⟩
  · have hf := hagain hc
    rw [Machine.state, Model.state] at hf
    rw [target, Graph.resolve, hf]
  · obtain ⟨hpassed, ⟨nearer, further, hs, -⟩, -⟩ := hfalls.1 htarget
    have hxs : x ∈ m.statesAbove (m.play events {} d).run.ancestors := by
      rw [hs]
      exact List.mem_append_right _ List.mem_cons_self
    obtain ⟨nearer, further, hs, hn⟩ := henc.statesAbove (m.enteredAll_play events d) hxs
    have hc := Enclosed.innermost hs hn
    rw [← Run.ancestors, ← current_eq_innermost] at hc
    rw [← current_eq_innermost, hagain hc] at hpassed
    cases hpassed

end Machine

/-! A model of the descendants with an attribute `k`, with handlers on them and on everything else
below them; and the same with a step to their children named `b`. -/

def keyTest : Constraint := .present (.plain "k")

def keyDeclarations : List (Declaration Bool) :=
  [{ statement := .select none [.select .descendant [keyTest]] [.attach true] },
    { statement := .select none [.select .descendant [keyTest], .select .descendant []]
        [.attach false] }]

def branchedDeclarations : List (Declaration Bool) :=
  keyDeclarations ++
    [{ statement := .select none [.select .descendant [keyTest], .select (.child (.plain "b")) []]
        [.compile] }]

def keyBuilder (ds : List (Declaration Bool)) : Builder Bool :=
  ((Builder.ofModel 0).performEach ds).2

def keyConstruction (ds : List (Declaration Bool)) : Construction Bool :=
  (keyBuilder ds).construct (fun _ _ => []) {}

def keyMachine (ds : List (Declaration Bool)) : Machine Bool Unit where
  model := ⟨(keyConstruction ds).workspace.graph, .root, []⟩
  behaviours := ⟨fun _ => {}, fun _ => {}⟩
  filters := ⟨fun _ _ => false, fun _ _ _ => false⟩

/-- An element with the attribute `k`. -/
def keyed (name : String) : StartElement := ⟨.plain name, ⟨[(.plain "k", "1")]⟩, none⟩

theorem compiledFor_key :
    CompiledFor (Scopes (fun _ _ => []) 10000 (keyBuilder keyDeclarations)) ⟨2⟩
      ([] ++ [⟨true, keyTest⟩]) := by
  have hs : (keyBuilder keyDeclarations).selector? ⟨0⟩ =
      some ⟨none, .descendant, [keyTest], none, some ⟨2⟩⟩ := by cbv
  have hc : (keyBuilder keyDeclarations).compiled? (some ⟨0⟩) = some ⟨2⟩ := by cbv
  have hr : (keyBuilder keyDeclarations).root = .root := by cbv
  have habove : CompiledFor (Scopes (fun _ _ => []) 10000 (keyBuilder keyDeclarations))
      (keyBuilder keyDeclarations).root [] := hr ▸ .root
  have hkey := CompiledFor.cursor .top habove (.step hs .root) hc
  exact hkey

theorem enclosed_key : (keyMachine keyDeclarations).Enclosed ⟨2⟩ ⟨3⟩ := by
  have hmatch : ((keyMachine keyDeclarations).state ⟨2⟩).transitions = [⟨keyTest, ⟨2⟩⟩] := by cbv
  have hrest : ((keyMachine keyDeclarations).state ⟨3⟩).transitions = [⟨keyTest, ⟨2⟩⟩] := by cbv
  refine ⟨by cbv, by cbv, fun edge he => ?_, fun edge he => ?_, by cbv⟩
  · rw [hmatch, List.mem_singleton] at he
    rw [he]
  · rw [hrest, List.mem_singleton] at he
    rw [he]

theorem target_keyed_in_match :
    (∀ d ∈ keyDeclarations, d.isStepwise = true) ∧
      (keyConstruction keyDeclarations).model = .ok (keyMachine keyDeclarations).model ∧
      keyTest.isTrivial = false ∧
      keyTest.holds (keyMachine keyDeclarations).filters (keyed "c") = true ∧
      (keyMachine keyDeclarations).current ((keyMachine keyDeclarations).play
        [.startElement (keyed "a"), .startElement (.ofName (.plain "b"))] {} ()).run = ⟨3⟩ ∧
      (keyMachine keyDeclarations).target ((keyMachine keyDeclarations).play
        [.startElement (keyed "a"), .startElement (.ofName (.plain "b"))] {} ()).run (keyed "c") =
          ⟨2⟩ ∧
      (keyMachine keyDeclarations).target ((keyMachine keyDeclarations).play
        [.startElement (keyed "a"), .startElement (.ofName (.plain "b"))] {} ()).run (keyed "c") ≠
          ⟨3⟩ := by
  have hds : ∀ d ∈ keyDeclarations, d.isStepwise = true := by decide
  have hm : (keyConstruction keyDeclarations).model = .ok (keyMachine keyDeclarations).model := by
    cbv
  have hf : (keyMachine keyDeclarations).filters.IgnoreQualifiers := fun _ _ _ _ _ => rfl
  have ht : keyTest.isTrivial = false := rfl
  have he : keyTest.holds (keyMachine keyDeclarations).filters (keyed "c") = true := by decide
  have hc : (keyMachine keyDeclarations).current ((keyMachine keyDeclarations).play
      [.startElement (keyed "a"), .startElement (.ofName (.plain "b"))] {} ()).run = ⟨3⟩ := by cbv
  obtain ⟨-, hagain⟩ := Machine.target_of_match hds (fun _ _ _ hn => by cases hn) hm
    [.startElement (keyed "a"), .startElement (.ofName (.plain "b"))] () ht compiledFor_key
    enclosed_key.fallback_eq he
  exact ⟨hds, hm, ht, he, hc, (hagain hf).1 (.inr hc), (hagain hf).2 enclosed_key⟩

/-- Below a match, but under the state of another step, an element that passes the test of the match
falls to the fallback of the match. -/
theorem keyed_falls_below_child :
    (∀ d ∈ branchedDeclarations, d.isStepwise = true) ∧
      (keyConstruction branchedDeclarations).model = .ok (keyMachine branchedDeclarations).model ∧
      (keyMachine branchedDeclarations).model.graph.hop? .root ⟨true, keyTest⟩ = some ⟨2⟩ ∧
      ((keyMachine branchedDeclarations).state ⟨2⟩).fallback = some ⟨3⟩ ∧
      keyTest.holds (keyMachine branchedDeclarations).filters (keyed "c") = true ∧
      (keyMachine branchedDeclarations).target ((keyMachine branchedDeclarations).play
        [.startElement (keyed "a"), .startElement (.ofName (.plain "b"))] {} ()).run (keyed "c") =
          ⟨3⟩ := by
  refine ⟨by decide, by cbv, by cbv, by cbv, by decide, by cbv⟩

end StreamSelect
