import Mathlib.Data.List.Forall2
import Mathlib.Data.List.Induction
import StreamSelect.Proofs.Automaton.Origin

/-! When a chain describes an element. The steps of the chain are placed along the path that leads
to the element from the root of the document. Chains that lead to one state are written alike. -/
namespace StreamSelect

open List (Forall₂)

/-- Places of the steps of a chain along a path, counted from 1: the first `i` steps end at
`place i`. A step to a child stands right behind the step before it. -/
structure Placement (fs : Filters) (chain : Chain) (path : List StartElement)
    (place : Nat → Nat) : Prop where
  start : place 0 = 0
  increasing : ∀ i, i < chain.length → place i < place (i + 1)
  child : ∀ {i hop}, chain[i]? = some hop → hop.deep = false → place (i + 1) = place i + 1
  passes : ∀ {i hop}, chain[i]? = some hop →
    ∃ e, path[place (i + 1) - 1]? = some e ∧ hop.test.holds fs e = true
  last : place chain.length = path.length

/-- A chain describes the last element of a path. -/
def Chain.Matches (fs : Filters) (chain : Chain) (path : List StartElement) : Prop :=
  ∃ place, Placement fs chain path place

namespace Chain

variable {fs : Filters} {chain : Chain} {path : List StartElement}

theorem matches_nil (fs : Filters) : Matches fs [] [] := by
  refine ⟨id, rfl, ?_, ?_, ?_, rfl⟩
  · intro i hi
    cases hi
  · intro i hop hi
    cases hi
  · intro i hop hi
    cases hi

/-- One more step matches one more element; a step to a child, the very next one. -/
theorem Matches.concat (h : Matches fs chain path) {between : List StartElement} {hop : Hop}
    {e : StartElement} (hc : hop.deep = false → between = []) (he : hop.test.holds fs e = true) :
    Matches fs (chain ++ [hop]) (path ++ between ++ [e]) := by
  obtain ⟨place, hp⟩ := h
  let place' := fun i => if i ≤ chain.length then place i else path.length + between.length + 1
  have hold : ∀ {i}, i ≤ chain.length → place' i = place i := fun hi => if_pos hi
  have hnew : place' (chain.length + 1) = path.length + between.length + 1 :=
    if_neg (Nat.not_succ_le_self _)
  have hcases : ∀ {i hop'}, (chain ++ [hop])[i]? = some hop' →
      (i < chain.length ∧ chain[i]? = some hop') ∨ (i = chain.length ∧ hop' = hop) := by
    intro i hop' hi
    have hlt := (List.getElem?_eq_some_iff.1 hi).1
    rw [List.length_append, List.length_singleton] at hlt
    rcases Nat.lt_or_eq_of_le (Nat.le_of_lt_succ hlt) with hl | rfl
    · rw [List.getElem?_append_left hl] at hi
      exact .inl ⟨hl, hi⟩
    · rw [List.getElem?_concat_length, Option.some.injEq] at hi
      exact .inr ⟨rfl, hi.symm⟩
  refine ⟨place', ?_, ?_, ?_, ?_, ?_⟩
  · rw [hold (Nat.zero_le _)]
    exact hp.start
  · intro i hi
    rw [List.length_append, List.length_singleton] at hi
    rcases Nat.lt_or_eq_of_le (Nat.le_of_lt_succ hi) with hl | rfl
    · rw [hold (Nat.le_of_lt hl), hold hl]
      exact hp.increasing i hl
    · rw [hold (Nat.le_refl _), hnew, hp.last]
      omega
  · intro i hop' hi hd
    rcases hcases hi with ⟨hl, hi⟩ | ⟨rfl, rfl⟩
    · rw [hold (Nat.le_of_lt hl), hold hl]
      exact hp.child hi hd
    · rw [hold (Nat.le_refl _), hnew, hp.last, hc hd]
      simp
  · intro i hop' hi
    rcases hcases hi with ⟨hl, hi⟩ | ⟨rfl, rfl⟩
    · obtain ⟨e', he', ht⟩ := hp.passes hi
      have hlt := (List.getElem?_eq_some_iff.1 he').1
      rw [hold hl, List.append_assoc, List.getElem?_append_left hlt]
      exact ⟨e', he', ht⟩
    · rw [hnew, Nat.add_sub_cancel, ← List.length_append, List.getElem?_concat_length]
      exact ⟨e, rfl, he⟩
  · rw [List.length_append, List.length_singleton, hnew]
    simp only [List.length_append, List.length_singleton]

/-! ### Chains that do not repeat the test of a descendant -/

/-- No step to a child repeats the test of a descendant right above it, or right above the plain
descendant above it. -/
structure Separated (chain : Chain) : Prop where
  below : ∀ {test again}, [⟨true, test⟩, ⟨false, again⟩] <:+: chain → test.isTrivial = false →
    (test == again) = false
  belowFallback : ∀ {test again}, [⟨true, test⟩, ⟨true, .all []⟩, ⟨false, again⟩] <:+: chain →
    test.isTrivial = false → (test == again) = false

theorem Separated.of_append {more : Chain} (h : Separated (chain ++ more)) : Separated chain :=
  ⟨fun hi => h.below (hi.trans (List.prefix_append _ _).isInfix),
    fun hi => h.belowFallback (hi.trans (List.prefix_append _ _).isInfix)⟩

theorem separated_pair {test again : Constraint} (h : (test == again) = false) :
    Separated [⟨true, test⟩, ⟨false, again⟩] := by
  refine ⟨fun hi _ => ?_, fun hi _ => absurd hi.length_le (Nat.not_succ_le_self 2)⟩
  have heq := hi.eq_of_length rfl
  simp only [List.cons.injEq, Hop.mk.injEq, true_and, and_true] at heq
  rw [heq.1, heq.2, h]

section

variable {before : Chain} {test again : Constraint} {made plain : Hop}

/-- A step to a child does not repeat the test of the descendant that the step above it spells. -/
theorem Separated.test_ne (h : Separated (before ++ [made] ++ [⟨false, again⟩]))
    (hm : Hop.Same ⟨true, test⟩ made) (ht : test.isTrivial = false) : (test == again) = false := by
  obtain ⟨deep, last⟩ := made
  obtain ⟨hdeep, hl⟩ := hm
  obtain rfl : true = deep := hdeep
  have hlast : last.isTrivial = false := (Constraint.isTrivial_congr hl).symm.trans ht
  rw [BEq.congr_left hl]
  exact h.below ⟨before, [], by simp⟩ hlast

/-- Nor that of a descendant with only the plain descendant between them. -/
theorem Separated.test_ne_of_fallback
    (h : Separated (before ++ [made] ++ [plain] ++ [⟨false, again⟩]))
    (hm : Hop.Same ⟨true, test⟩ made) (hp : Hop.Same ⟨true, .all []⟩ plain)
    (ht : test.isTrivial = false) : (test == again) = false := by
  obtain ⟨deep, last⟩ := made
  obtain ⟨deep', every⟩ := plain
  obtain ⟨hdeep, hl⟩ := hm
  obtain ⟨hdeep', he⟩ := hp
  obtain rfl : true = deep := hdeep
  obtain rfl : true = deep' := hdeep'
  obtain rfl : every = .all [] :=
    Constraint.isTrivial_iff.1 ((Constraint.isTrivial_congr he).symm.trans rfl)
  have hlast : last.isTrivial = false := (Constraint.isTrivial_congr hl).symm.trans ht
  rw [BEq.congr_left hl]
  exact h.belowFallback ⟨before, [], by simp⟩ hlast

end

end Chain

namespace Graph.Arranged

variable {H : Type} {g : Graph H} {o : Origins}

theorem origin_root (ha : g.Arranged o) : o .root = none := by
  cases ho : o .root with
  | none => rfl
  | some entry =>
    obtain ⟨above, h⟩ := entry
    have hb := ha.ordered ho
    have hr : StateId.root.index = 1 := rfl
    omega

theorem origin_sink (ha : g.Arranged o) : o .sink = none := by
  cases ho : o .sink with
  | none => rfl
  | some entry =>
    obtain ⟨above, h⟩ := entry
    exact absurd (ha.ordered ho).2.1 (Nat.not_lt_zero _)

/-- A separated chain runs along the origins of its states: no step of it is an edge back. -/
theorem origin_of_reach? (ha : g.Arranged o) {chain : Chain} {h : Hop} {s : StateId}
    (hsep : Chain.Separated (chain ++ [h])) (hr : g.reach? .root (chain ++ [h]) = some s) :
    ∃ above made, g.reach? .root chain = some above ∧ o s = some (above, made) ∧ made.Same h := by
  obtain ⟨n, hn⟩ : ∃ n, chain.length = n := ⟨_, rfl⟩
  induction n using Nat.strongRecOn generalizing chain h s with
  | ind n ih =>
    rw [reach?_concat] at hr
    obtain ⟨above, habove, hhop⟩ := Option.bind_eq_some_iff.1 hr
    rcases ha.hop?_cases hhop with ⟨made, ho, hsame⟩ | ⟨hd, top, test, ho, htriv, htest, hback⟩
    · exact ⟨above, made, habove, ho, hsame⟩
    -- the step above must have made the match, or its fallback, that this edge leads back to
    rcases chain.eq_nil_or_concat' with rfl | ⟨before, last, rfl⟩
    · cases habove
      rcases hback with rfl | hf
      · rw [ha.origin_root] at ho
        cases ho
      · rw [ha.origin_root] at hf
        cases hf
    have hlast : before.length < n := by
      rw [← hn, List.length_append, List.length_singleton]
      omega
    obtain ⟨above', made, habove', hmade, hsame⟩ := ih _ hlast hsep.of_append habove rfl
    obtain ⟨deep, again⟩ := h
    obtain rfl : deep = false := hd
    rcases hback with rfl | hf
    · obtain ⟨rfl, rfl⟩ := Prod.mk.inj (Option.some.inj (hmade.symm.trans ho))
      have hne := hsep.test_ne hsame htriv
      rw [htest] at hne
      cases hne
    · obtain ⟨rfl, rfl⟩ := Prod.mk.inj (Option.some.inj (hmade.symm.trans hf))
      rcases before.eq_nil_or_concat' with rfl | ⟨first, found, rfl⟩
      · cases habove'
        rw [ha.origin_root] at ho
        cases ho
      have hfirst : first.length < n := Nat.lt_trans (by simp) hlast
      obtain ⟨_, _, _, hmatch, hsame'⟩ := ih _ hfirst hsep.of_append.of_append habove' rfl
      obtain ⟨rfl, rfl⟩ := Prod.mk.inj (Option.some.inj (hmatch.symm.trans ho))
      have hne := hsep.test_ne_of_fallback hsame' hsame htriv
      rw [htest] at hne
      cases hne

/-- The root begins a chain and ends none. -/
theorem eq_nil_of_reach?_root (ha : g.Arranged o) {chain : Chain} (hsep : chain.Separated)
    (hs : g.reach? .root chain = some .root) : chain = [] := by
  rcases chain.eq_nil_or_concat' with rfl | ⟨before, last, rfl⟩
  · rfl
  · obtain ⟨above, made, -, ho, -⟩ := ha.origin_of_reach? hsep hs
    rw [ha.origin_root] at ho
    cases ho

/-- Separated chains that lead to one state are written alike: the state has one origin. -/
theorem same_of_reach? (ha : g.Arranged o) {c d : Chain} {s : StateId}
    (hc : c.Separated) (hd : d.Separated) (hcs : g.reach? .root c = some s)
    (hds : g.reach? .root d = some s) : Forall₂ Hop.Same c d := by
  induction c using List.reverseRecOn generalizing d s with
  | nil =>
    obtain rfl : StateId.root = s := Option.some.inj hcs
    rw [ha.eq_nil_of_reach?_root hd hds]
    exact .nil
  | append_singleton c h ih =>
    obtain ⟨above, made, habove, ho, hsame⟩ := ha.origin_of_reach? hc hcs
    rcases d.eq_nil_or_concat' with rfl | ⟨d, k, rfl⟩
    · obtain rfl : StateId.root = s := Option.some.inj hds
      rw [ha.origin_root] at ho
      cases ho
    obtain ⟨above', made', habove', ho', hsame'⟩ := ha.origin_of_reach? hd hds
    obtain ⟨rfl, rfl⟩ := Prod.mk.inj (Option.some.inj (ho.symm.trans ho'))
    exact List.rel_append (ih hc.of_append hd.of_append habove habove')
      (.cons (hsame.symm.trans hsame') .nil)

end Graph.Arranged
end StreamSelect
