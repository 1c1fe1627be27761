import StreamSelect.Proofs.Building.Scope

/-! What lies above a cursor: its selector, the parent of that, and so on up to the root of the scope.
The state of a cursor is reached from the nearest of them that holds a state. -/
namespace StreamSelect.Builder

variable {B : Type} {b : Builder B}

theorem knows_or_unknown (b : Builder B) (cursor : Option SelectorId) :
    b.Knows cursor ∨ ∃ id, cursor = some id ∧ b.selector? id = none := by
  cases cursor with
  | none => exact .inl fun _ hid => by cases hid
  | some id =>
    cases hs : b.selector? id with
    | none => exact .inr ⟨id, rfl, hs⟩
    | some s =>
      refine .inl fun other hother => ?_
      obtain rfl := Option.some.inj hother
      exact ⟨s, hs⟩

theorem lineageIn_none (selectors : List Selector) : lineageIn selectors none = [] := by
  cases selectors <;> rfl

theorem lineageIn_of_length_le {selectors : List Selector} {id : SelectorId}
    (h : selectors.length ≤ id.index) : lineageIn selectors (some id) = [] := by
  induction selectors with
  | nil => rfl
  | cons s earlier ih =>
    have hlt : earlier.length < id.index := h
    rw [lineageIn, if_neg (Nat.ne_of_gt hlt), ih (Nat.le_of_lt hlt)]

/-- What was declared after a cursor does not lie above it. -/
theorem lineageIn_append (later : List Selector) {earlier : List Selector}
    {cursor : Option SelectorId} (h : ∀ id, cursor = some id → id.index < earlier.length) :
    lineageIn (later ++ earlier) cursor = lineageIn earlier cursor := by
  cases cursor with
  | none => rw [lineageIn_none, lineageIn_none]
  | some id =>
    have hid := h id rfl
    induction later with
    | nil => rfl
    | cons s later ih =>
      have hne : id.index ≠ (later ++ earlier).length := by
        rw [List.length_append]
        omega
      rw [List.cons_append, lineageIn, if_neg hne, ih]

theorem selector?_of_mem_lineageIn {selectors : List Selector} {cursor : Option SelectorId}
    {id : SelectorId} {s : Selector} (h : (id, s) ∈ lineageIn selectors cursor) :
    selectors.reverse[id.index]? = some s := by
  induction selectors generalizing cursor with
  | nil => cases cursor <;> cases h
  | cons last earlier ih =>
    have hearlier : ∀ {above}, (id, s) ∈ lineageIn earlier above →
        (last :: earlier).reverse[id.index]? = some s := by
      intro above hm
      have hget := ih hm
      obtain ⟨hlt, -⟩ := List.getElem?_eq_some_iff.1 hget
      rw [List.reverse_cons, List.getElem?_append_left hlt, hget]
    cases cursor with
    | none => cases h
    | some cursor =>
      rw [lineageIn] at h
      split at h
      · rename_i hlast
        rcases List.mem_cons.1 h with hhead | hm
        · obtain ⟨rfl, rfl⟩ := Prod.mk.inj hhead
          rw [hlast, List.reverse_cons, ← List.length_reverse, List.getElem?_concat_length]
        · exact hearlier hm
      · exact hearlier h

theorem lineage_none (b : Builder B) : b.lineage none = [] := lineageIn_none _

theorem lineage_of_unknown {id : SelectorId} (hs : b.selector? id = none) :
    b.lineage (some id) = [] := by
  apply lineageIn_of_length_le
  rw [List.length_reverse, Array.length_toList]
  exact Array.getElem?_eq_none_iff.1 hs

theorem selector?_of_mem_lineage {cursor : Option SelectorId} {id : SelectorId} {s : Selector}
    (h : (id, s) ∈ b.lineage cursor) : b.selector? id = some s := by
  have hget := selector?_of_mem_lineageIn h
  rwa [List.reverse_reverse, Array.getElem?_toList] at hget

theorem toList_reverse_of_known {id : SelectorId} {s : Selector} (hs : b.selector? id = some s) :
    ∃ later, b.selectors.toList.reverse =
      later ++ s :: (b.selectors.toList.take id.index).reverse := by
  obtain ⟨hlt, hget⟩ := Array.getElem?_eq_some_iff.1 hs
  have hdrop : b.selectors.toList.drop id.index =
      s :: b.selectors.toList.drop (id.index + 1) := by
    rw [List.drop_eq_getElem_cons hlt, Array.getElem_toList, hget]
  refine ⟨(b.selectors.toList.drop (id.index + 1)).reverse, ?_⟩
  calc b.selectors.toList.reverse
      = (b.selectors.toList.take id.index ++ b.selectors.toList.drop id.index).reverse := by
        rw [List.take_append_drop]
    _ = _ := by rw [List.reverse_append, hdrop, List.reverse_cons, ← List.append_cons]

theorem length_earlier {id : SelectorId} {s : Selector} (hs : b.selector? id = some s) :
    (b.selectors.toList.take id.index).reverse.length = id.index := by
  rw [List.length_reverse, List.length_take, Array.length_toList]
  exact Nat.min_eq_left (Nat.le_of_lt (Array.getElem?_eq_some_iff.1 hs).1)

theorem lineage_of_known {id : SelectorId} {s : Selector} (hs : b.selector? id = some s) :
    b.lineage (some id) =
      (id, s) :: lineageIn (b.selectors.toList.take id.index).reverse s.parent := by
  obtain ⟨later, hsplit⟩ := toList_reverse_of_known hs
  have hlength := length_earlier hs
  rw [lineage, hsplit, lineageIn_append, lineageIn, if_pos hlength.symm]
  intro other hother
  obtain rfl := Option.some.inj hother
  rw [List.length_cons, hlength]
  exact Nat.lt_succ_self _

/-- Above a selector lie its parent and what lies above that. -/
theorem Ordered.lineage_of_parent (h : b.Ordered) {id : SelectorId} {s : Selector}
    (hs : b.selector? id = some s) : b.lineage (some id) = (id, s) :: b.lineage s.parent := by
  obtain ⟨later, hsplit⟩ := toList_reverse_of_known hs
  have hparent : ∀ p, s.parent = some p →
      p.index < (b.selectors.toList.take id.index).reverse.length := by
    intro p hp
    rw [length_earlier hs]
    exact h _ _ _ hs hp
  rw [lineage_of_known hs, lineage, hsplit, List.append_cons, lineageIn_append _ hparent]

/-! ### The way up to a state -/

theorem climb_eq (root : StateId) (above : List (SelectorId × Selector)) (below : List SelectorId) :
    climb root above below = ((climb root above []).1, (climb root above []).2 ++ below) := by
  induction above generalizing below with
  | nil => rfl
  | cons step above ih =>
    obtain ⟨id, s⟩ := step
    cases hx : s.state with
    | some x => simp only [climb, hx, List.nil_append]
    | none =>
      simp only [climb, hx]
      rw [ih (id :: below), ih [id], List.append_assoc, List.singleton_append]

theorem climb_cases (root : StateId) (above : List (SelectorId × Selector))
    (below : List SelectorId) : (climb root above below).1 = root ∨
      ∃ step ∈ above, step.2.state = some (climb root above below).1 := by
  induction above generalizing below with
  | nil => exact .inl rfl
  | cons step above ih =>
    obtain ⟨id, s⟩ := step
    rw [climb]
    split
    · exact .inr ⟨_, List.mem_cons_self, ‹_›⟩
    · rcases ih (id :: below) with hroot | ⟨step, hm, hstate⟩
      · exact .inl hroot
      · exact .inr ⟨step, List.mem_cons_of_mem _ hm, hstate⟩

/-- The way up ends at the root of the scope or at a selector that holds a state. -/
theorem uncompiled_cases (b : Builder B) (cursor : Option SelectorId) (below : List SelectorId) :
    (b.uncompiled cursor below).1 = b.root ∨
      ∃ id s, b.selector? id = some s ∧ s.state = some (b.uncompiled cursor below).1 := by
  rcases climb_cases b.root (b.lineage cursor) below with hroot | ⟨⟨id, s⟩, hm, hstate⟩
  · exact .inl hroot
  · exact .inr ⟨id, s, selector?_of_mem_lineage hm, hstate⟩

theorem stateOf_of_lineage_nil {cursor : Option SelectorId} (h : b.lineage cursor = []) :
    b.stateOf cursor = (b.root, b) := by
  rw [stateOf, uncompiled, h]
  rfl

theorem stateOf_none (b : Builder B) : b.stateOf none = (b.root, b) :=
  stateOf_of_lineage_nil (lineage_none b)

theorem stateOf_of_unknown {id : SelectorId} (hs : b.selector? id = none) :
    b.stateOf (some id) = (b.root, b) :=
  stateOf_of_lineage_nil (lineage_of_unknown hs)

theorem stateOf_of_state {id : SelectorId} {s : Selector} {x : StateId}
    (hs : b.selector? id = some s) (hx : s.state = some x) : b.stateOf (some id) = (x, b) := by
  rw [stateOf, uncompiled, lineage_of_known hs]
  simp only [climb, hx]
  rfl

/-- A selector without a state is compiled below its parent. -/
theorem Ordered.stateOf_of_parent (h : b.Ordered) {id : SelectorId} {s : Selector}
    (hs : b.selector? id = some s) (hx : s.state = none) :
    b.stateOf (some id) = (b.stateOf s.parent).2.compile (b.stateOf s.parent).1 id := by
  rw [stateOf, uncompiled, h.lineage_of_parent hs]
  simp only [climb, hx]
  rw [climb_eq]
  simp only [List.foldl_append, List.foldl_cons, List.foldl_nil]
  rfl

end StreamSelect.Builder
