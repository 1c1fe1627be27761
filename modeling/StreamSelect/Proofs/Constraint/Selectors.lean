import Mathlib.Data.List.Forall2
import StreamSelect.Proofs.Automaton.Chain

/-! Selectors declared alike. Their kinds and constraints are equal, and so are the tests that these
combine to. -/
namespace StreamSelect

open List (Forall₂)

namespace Constraint

theorem beq_eq_sameAll (as bs : List Constraint) : (as == bs) = sameAll as bs := by
  induction as generalizing bs with
  | nil => cases bs <;> rfl
  | cons a as ih =>
    cases bs with
    | nil => rfl
    | cons b bs =>
      rw [List.cons_beq_cons, sameAll, ih]
      rfl

instance : EquivBEq (List Constraint) where
  rfl := (beq_eq_sameAll _ _).trans (sameAll_refl _)
  symm h := by
    rw [beq_eq_sameAll] at h ⊢
    exact sameAll_symm _ _ h
  trans h k := by
    rw [beq_eq_sameAll] at h k ⊢
    exact sameAll_trans _ _ _ h k

theorem forall₂_of_sameAll : ∀ {as bs : List Constraint}, sameAll as bs = true →
    Forall₂ (fun a b => (a == b) = true) as bs
  | [], [], _ => .nil
  | [], _ :: _, h => by simp [sameAll] at h
  | _ :: _, [], h => by simp [sameAll] at h
  | a :: as, b :: bs, h => by
    rw [sameAll, Bool.and_eq_true] at h
    exact .cons h.1 (forall₂_of_sameAll h.2)

theorem sameAll_of_forall₂ {as bs : List Constraint}
    (h : Forall₂ (fun a b => (a == b) = true) as bs) : sameAll as bs = true := by
  induction h with
  | nil => rfl
  | cons hab _ ih =>
    rw [sameAll, Bool.and_eq_true]
    exact ⟨hab, ih⟩

theorem parts_congr {a b : Constraint} (h : (a == b) = true) :
    Forall₂ (fun a b => (a == b) = true) a.parts b.parts := by
  have hab : same a b = true := h
  cases a
  case all as =>
    cases b <;> simp only [same, Bool.false_eq_true] at hab
    exact forall₂_of_sameAll hab
  all_goals
    cases b <;> simp only [same, Bool.false_eq_true] at hab
    exact .cons h .nil

theorem ofParts_congr {as bs : List Constraint}
    (h : Forall₂ (fun a b => (a == b) = true) as bs) : (ofParts as == ofParts bs) = true := by
  have hall : (all as == all bs) = true := by
    show same (all as) (all bs) = true
    rw [same]
    exact sameAll_of_forall₂ h
  match h with
  | .nil => exact hall
  | .cons hab .nil => exact hab
  | .cons _ (.cons _ _) => exact hall

end Constraint

namespace SelectorKind

/-- A kind is known by its direction and by what it asks of an element. -/
theorem beq_iff {a b : SelectorKind} : (a == b) = true ↔
    a.isDescendant = b.isDescendant ∧ (a.implied == b.implied) = true := by
  have hname : ∀ m n : Name, ([Constraint.name m] == [Constraint.name n]) = (m == n) :=
    fun m n => Bool.and_true (m == n)
  have hfilter : ∀ f g : FilterId, ([Constraint.filter f] == [Constraint.filter g]) = (f == g) :=
    fun f g => Bool.and_true (f == g)
  have hname_filter : ∀ (m : Name) (f : FilterId),
      ([Constraint.name m] == [Constraint.filter f]) = false := fun _ _ => rfl
  have hfilter_name : ∀ (f : FilterId) (m : Name),
      ([Constraint.filter f] == [Constraint.name m]) = false := fun _ _ => rfl
  cases a <;> cases b
  case child.child m n =>
    show (m == n) = true ↔ _
    simp [isDescendant, implied, hname]
  case named.named m n =>
    show (m == n) = true ↔ _
    simp [isDescendant, implied, hname]
  case filtered.filtered f g =>
    show (f == g) = true ↔ _
    simp [isDescendant, implied, hfilter]
  case anyChild.anyChild => exact ⟨fun _ => ⟨rfl, rfl⟩, fun _ => rfl⟩
  case descendant.descendant => exact ⟨fun _ => ⟨rfl, rfl⟩, fun _ => rfl⟩
  all_goals
    show false = true ↔ _
    simp [isDescendant, implied, hname_filter, hfilter_name]

instance : EquivBEq SelectorKind where
  rfl := beq_iff.2 ⟨rfl, BEq.rfl⟩
  symm h := beq_iff.2 ⟨(beq_iff.1 h).1.symm, BEq.symm (beq_iff.1 h).2⟩
  trans h k :=
    beq_iff.2 ⟨(beq_iff.1 h).1.trans (beq_iff.1 k).1, BEq.trans (beq_iff.1 h).2 (beq_iff.1 k).2⟩

end SelectorKind

namespace Selector

/-- Steps declared alike, below whatever parents. -/
structure Like (s t : Selector) : Prop where
  kind : (s.kind == t.kind) = true
  constraints : (s.constraints == t.constraints) = true

theorem same_iff {s : Selector} {parent : Option SelectorId} {kind : SelectorKind}
    {constraints : List Constraint} : s.same parent kind constraints = true ↔
      s.parent = parent ∧ s.Like { parent, kind, constraints } := by
  unfold same
  rw [Bool.and_eq_true, Bool.and_eq_true, beq_iff_eq, and_assoc]
  exact and_congr_right fun _ => ⟨fun ⟨hk, hc⟩ => ⟨hk, hc⟩, fun h => ⟨h.kind, h.constraints⟩⟩

theorem Like.symm {s t : Selector} (h : s.Like t) : t.Like s :=
  ⟨BEq.symm h.kind, BEq.symm h.constraints⟩

theorem Like.trans {s t u : Selector} (h : s.Like t) (k : t.Like u) : s.Like u :=
  ⟨BEq.trans h.kind k.kind, BEq.trans h.constraints k.constraints⟩

theorem Like.hop {s t : Selector} (h : s.Like t) : s.hop.Same t.hop := by
  obtain ⟨hdeep, himplied⟩ := SelectorKind.beq_iff.1 h.kind
  refine ⟨hdeep, ?_⟩
  have hconstraints := h.constraints
  rw [Constraint.beq_eq_sameAll] at himplied hconstraints
  have hparts := List.rel_append (Constraint.forall₂_of_sameAll himplied)
    (Constraint.forall₂_of_sameAll hconstraints)
  exact Constraint.ofParts_congr (List.rel_flatMap hparts fun _ _ hab => Constraint.parts_congr hab)

end Selector

end StreamSelect
