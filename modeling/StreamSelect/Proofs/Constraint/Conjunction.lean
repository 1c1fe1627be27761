import StreamSelect.Proofs.Constraint.Selectors

/-! Conjunctions of conjunctions. However the parts were grouped, what is built is the flat list of
the constraints at the leaves: a single one as it is, any other number as one conjunction. -/
namespace StreamSelect

open List (Forall₂)

namespace Constraint

def isConjunction : Constraint → Bool
  | all _ => true
  | _ => false

/-- No conjunction inside a conjunction, and none of a single constraint. -/
def IsNormal (c : Constraint) : Prop :=
  ∀ cs, c = all cs → cs.length ≠ 1 ∧ ∀ d ∈ cs, d.isConjunction = false

/-- A constraint that conjunctions are built from. -/
abbrev Atom := { c : Constraint // c.isConjunction = false }

/-- A finite tree of calls of `conjunction` over such constraints. -/
inductive Grouping where
  | atom (a : Atom)
  | group (parts : List Grouping)

namespace Grouping

mutual
/-- The constraint that the calls of a tree return. -/
def constraint : Grouping → Constraint
  | atom a => a.1
  | group ts => conjunction (constraints ts)

def constraints : List Grouping → List Constraint
  | [] => []
  | t :: ts => t.constraint :: constraints ts
end

mutual
/-- The constraints at the leaves from left to right. -/
def leaves : Grouping → List Atom
  | atom a => [a]
  | group ts => leavesAll ts

def leavesAll : List Grouping → List Atom
  | [] => []
  | t :: ts => t.leaves ++ leavesAll ts
end

end Grouping

theorem parts_atom (a : Atom) : parts a.1 = [a.1] := by
  obtain ⟨c, hc⟩ := a
  cases c <;> first | rfl | exact absurd hc Bool.noConfusion

/-- The parts of atoms taken together are these atoms: only a list of one is not its own
conjunction, and its only member is no conjunction either. -/
theorem parts_ofParts (as : List Atom) : (ofParts (as.map (·.1))).parts = as.map (·.1) :=
  match as with
  | [] => rfl
  | [a] => parts_atom a
  | _ :: _ :: _ => rfl

theorem isNormal_ofParts (as : List Atom) : (ofParts (as.map (·.1))).IsNormal := by
  match as with
  | [] => exact fun cs h => by cases h; exact ⟨by decide, by simp⟩
  | [⟨c, hc⟩] =>
    intro cs h
    have hall : c = all cs := h
    rw [hall] at hc
    cases hc
  | a :: b :: as =>
    intro cs h
    have hcs : (a :: b :: as).map (·.1) = cs := all.inj h
    refine ⟨by simp [← hcs], fun d hd => ?_⟩
    rw [← hcs] at hd
    obtain ⟨x, -, rfl⟩ := List.mem_map.1 hd
    exact x.2

theorem isTrivial_ofParts (as : List Atom) :
    (ofParts (as.map (·.1))).isTrivial = true ↔ as = [] := by
  rw [isTrivial_iff]
  match as with
  | [] => exact ⟨fun _ => rfl, fun _ => rfl⟩
  | [⟨c, hc⟩] =>
    refine ⟨fun h => ?_, nofun⟩
    have hall : c = all [] := h
    rw [hall] at hc
    cases hc
  | _ :: _ :: _ => exact ⟨nofun, nofun⟩

/-- Lists of atoms give equal constraints only where they are equal one by one: equal constraints
have equal parts. -/
theorem beq_ofParts_iff (as bs : List Atom) :
    (ofParts (as.map (·.1)) == ofParts (bs.map (·.1))) = true ↔
      Forall₂ (fun a b : Atom => (a.1 == b.1) = true) as bs := by
  have hmap : Forall₂ (fun c d => (c == d) = true) (as.map (·.1)) (bs.map (·.1)) ↔
      Forall₂ (fun a b : Atom => (a.1 == b.1) = true) as bs := by
    rw [List.forall₂_map_left_iff, List.forall₂_map_right_iff]
  rw [← hmap]
  refine ⟨fun h => ?_, ofParts_congr⟩
  have hparts := parts_congr h
  rwa [parts_ofParts, parts_ofParts] at hparts

namespace Grouping

mutual
theorem parts_constraint : ∀ t : Grouping, t.constraint.parts = t.leaves.map (·.1)
  | atom a => parts_atom a
  | group ts => by
    rw [constraint, conjunction, flatMap_parts, leaves, parts_ofParts]

theorem flatMap_parts : ∀ ts : List Grouping,
    (constraints ts).flatMap parts = (leavesAll ts).map (·.1)
  | [] => rfl
  | t :: ts => by
    rw [constraints, List.flatMap_cons, parts_constraint t, flatMap_parts ts, leavesAll,
      List.map_append]
end

/-- The normal form: what a tree of calls returns depends on its leaves only. -/
theorem constraint_eq (t : Grouping) : t.constraint = ofParts (t.leaves.map (·.1)) := by
  cases t with
  | atom a => rfl
  | group ts => rw [constraint, conjunction, flatMap_parts, leaves]

/-- What nested conjunctions come to. The result is flat, it is trivial for a tree without leaves
only, it asks of an element what all the leaves ask, and the results of two trees are equal when
their leaves are, from left to right and as many here as there. -/
theorem constraint_normal (t u : Grouping) :
    t.constraint.IsNormal ∧
    (t.constraint.isTrivial = true ↔ t.leaves = []) ∧
    (∀ fs e, t.constraint.holds fs e = t.leaves.all fun a => a.1.holds fs e) ∧
    ((t.constraint == u.constraint) = true ↔
      Forall₂ (fun a b : Atom => (a.1 == b.1) = true) t.leaves u.leaves) := by
  rw [constraint_eq t, constraint_eq u]
  refine ⟨isNormal_ofParts _, isTrivial_ofParts _, fun fs e => ?_, beq_ofParts_iff _ _⟩
  rw [holds_ofParts, List.all_map]
  rfl

end Grouping

/-- A name and a presence test, the one grouped with an empty conjunction, the other in a group of
its own within a group. -/
example :
    let a : Atom := ⟨name (.plain "a"), rfl⟩
    let b : Atom := ⟨present (.plain "b"), rfl⟩
    (Grouping.group [.group [.atom a, .group []], .group [.group [.atom b]]]).constraint =
      all [a.1, b.1] := rfl

end Constraint
end StreamSelect
