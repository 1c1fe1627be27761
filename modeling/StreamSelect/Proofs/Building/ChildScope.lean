import StreamSelect.Proofs.Building.SinglePath

/-! A handler that declares one other handler, on the children of a name. The model that comes of it
has the handlers of two paths, that of the first one and that of its children. -/
namespace StreamSelect

open Relation (ReflTransGen)

variable {B : Type}

/-- The workspace after a handler was attached to the children of a name of a state. -/
def Workspace.withChild (w : Workspace B) (s : StateId) (item : Name) (x : B) : Workspace B :=
  { w with
    graph := (w.graph.extend s ⟨false, .name item⟩).2.attach
      (w.graph.extend s ⟨false, .name item⟩).1 ⟨x, some w.copies⟩
    attachments := w.attachments.push
      ⟨(w.graph.extend s ⟨false, .name item⟩).1, ⟨x, some w.copies⟩⟩
    copies := w.copies + 1 }

theorem Workspace.exists_arranged_withChild {w : Workspace B} {o : Origins}
    (ha : w.graph.Arranged o) {s : StateId} (hs : w.graph.Usable s) (item : Name) (x : B) :
    ∃ o', (w.withChild s item x).graph.Arranged o' := by
  obtain ⟨⟨o', ha'⟩, -⟩ := ha.extend hs.1 hs.2 ⟨false, .name item⟩
  exact ⟨o', ha'.attach _ _⟩

/-- The declaration of a handler on the children of a name, in a scope that holds nothing yet. -/
theorem Builder.perform_nested_child (w : Workspace B) (s : StateId) (item : Name) (x : B) :
    ((nested w s).perform (pathDeclaration ([item], x))).1.error = none ∧
      ((nested w s).perform (pathDeclaration ([item], x))).2.workspace = w.withChild s item x := by
  let declared : Builder B :=
    { nested w s with selectors := #[{ parent := none, kind := .child item, constraints := [] }] }
  have hwalk : (nested w s).walk none (pathSteps [item]) = (.ok (some ⟨0⟩), declared) := by
    rw [pathSteps, List.map_singleton, walk, declare, nested, Array.findIdx?_empty]
    rfl
  have hcarried : (nested w s).carryOut (.select none (pathSteps [item]) [.attach x]) =
      declared.actAll (some ⟨0⟩) [.attach x] := carryOut_of_walk hwalk _
  let copied := (declared.freshCopy x).2
  have hnew : copied.selector? ⟨0⟩ = some { parent := none, kind := .child item, constraints := [] } :=
    rfl
  have hordered : copied.Ordered := by
    intro id sel p hid hparent
    obtain ⟨index⟩ := id
    cases index with
    | zero =>
      obtain rfl := Option.some.inj (hid.symm.trans hnew)
      cases hparent
    | succ index => cases hid
  have hstate := hordered.stateOf_of_unlimited hnew rfl rfl
  rw [stateOf_none] at hstate
  constructor
  · show ((nested w s).carryOut (.select none (pathSteps [item]) [.attach x])).1.2 = none
    rw [hcarried]
    rfl
  · rw [pathDeclaration, perform_attach hwalk]
    show ((copied.stateOf (some ⟨0⟩)).2.attach (copied.stateOf (some ⟨0⟩)).1
      ⟨x, some w.copies⟩).workspace = _
    rw [hstate]
    rfl

namespace Builder.Registered

variable {top : Builder B} {path : List Name} {x : B}

/-- Both paths have their handlers. -/
theorem withChild (h : top.Registered [(path, x)]) {s : StateId} {copy : Option Nat}
    (ha : top.workspace.attachments = #[⟨s, ⟨x, copy⟩⟩])
    (hs : top.graph.reach? .root (childChain path) = some s) (item : Name) (y : B) :
    ({ workspace := top.workspace.withChild s item y, root := .root } : Builder B).Registered
      [(path, x), (path ++ [item], y)] := by
  have hwithin : top.graph.Within 0 s :=
    h.memoized.fit.workspace.attachments ⟨s, ⟨x, copy⟩⟩ (by rw [ha]; exact Array.mem_singleton.2 rfl)
  have hnested : (Builder.nested top.workspace s).Fit 0 := .nested h.memoized.fit.workspace hwithin
  obtain ⟨-, hworkspace⟩ := perform_nested_child top.workspace s item y
  have hk : (Builder.nested top.workspace s).Becomes 0 _
      ((Builder.nested top.workspace s).perform (pathDeclaration ([item], y))).2 :=
    hnested.becomes_perform nofun
  have horder : Builder.Attaches (fun _ => True) (Builder.nested top.workspace s)
      ((Builder.nested top.workspace s).perform (pathDeclaration ([item], y))).2 :=
    hnested.attaches_perform fun _ _ => trivial
  have hinOrder := horder.inOrder h.inOrder
  have hfit := hk.fit.workspace
  have hext := hk.graph
  rw [graph, graph] at hext
  rw [hworkspace] at hinOrder hfit hext
  have hroot : top.graph.Within 0 .root := h.root ▸ h.memoized.fit.root
  have hc : top.graph.Coherent 0 := h.memoized.fit.workspace.coherent
  have hhop := hc.hop?_extend hwithin ⟨false, .name item⟩
  refine ⟨.of_empty ⟨hfit, hroot.mono hext, fun _ _ _ hid => by cases hid⟩ rfl, rfl,
    (h.free.addTransition s item).attach _ _, hinOrder, h.observers, ?_⟩
  show List.Forall₂ _ _ (top.workspace.attachments.push _).toList
  rw [ha]
  refine .cons ⟨rfl, path, BEq.rfl, Graph.reach?_of_extends hext hs⟩ (.cons ⟨rfl, _, BEq.rfl, ?_⟩ .nil)
  rw [childChain_concat, Graph.reach?_concat]
  have hs' : (top.workspace.withChild s item y).graph.reach? .root (childChain path) = some s :=
    Graph.reach?_of_extends hext hs
  rw [graph, hs']
  exact Graph.hop?_of_extends (.attach _ _ _) hhop

end Builder.Registered

/-! ### Constructions -/

namespace Construction

variable {declared : B → Nat → List (Declaration B)} {budget : Nat}

/-- The handler whose turn it is declares next. -/
theorem due_of_steps {c last : Construction B} (hs : ReflTransGen (Step declared budget) c last)
    (hn : last.workspace.attachments[last.position]? = none) {a : Attachment B}
    (ha : c.workspace.attachments[c.position]? = some a) (hb : a ∉ c.built) :
    c.Due budget a ∧ ReflTransGen (Step declared budget) (c.build declared a) last := by
  rcases hs.cases_head with rfl | ⟨next, hstep, hrest⟩
  · cases ha.symm.trans hn
  · cases hstep with
    | skip ha' hm =>
      obtain rfl := Option.some.inj (ha'.symm.trans ha)
      exact absurd hm hb
    | build hd _ =>
      obtain rfl := Option.some.inj (hd.next.symm.trans ha)
      exact ⟨hd, hrest⟩

theorem build_child {item : Name} {y : B} {a : Attachment B}
    (hd : ∀ k, declared a.handler.behaviour k = [pathDeclaration ([item], y)]) (c : Construction B) :
    (c.build declared a).workspace = c.workspace.withChild a.state item y ∧
      (c.build declared a).failure = none := by
  obtain ⟨hok, hw⟩ := Builder.perform_nested_child c.workspace a.state item y
  unfold build
  simp only [hd, Builder.performAll]
  generalize (Builder.nested c.workspace a.state).perform (pathDeclaration ([item], y)) = done at hok hw
  obtain ⟨outcome, later⟩ := done
  simp only [show outcome.error = none from hok]
  exact ⟨hw, rfl⟩

theorem build_plain {a : Attachment B} (hd : ∀ k, declared a.handler.behaviour k = [])
    (c : Construction B) :
    (c.build declared a).workspace = c.workspace ∧ (c.build declared a).failure = none := by
  rw [build, hd]
  exact ⟨rfl, rfl⟩

section

variable [DecidableEq B] {top : Builder B} {s : StateId} {copy : Option Nat} {item : Name} {x y : B}
  (ha : top.workspace.attachments = #[⟨s, ⟨x, copy⟩⟩])
  (hx : ∀ k, declared x k = [pathDeclaration ([item], y)]) (hy : ∀ k, declared y k = [])
  (hxy : x ≠ y)
include ha hx hy hxy

/-- The first handler declares the second one, that one declares nothing, and then all is done. -/
theorem model_ok_of_child {settings : BuildSettings} (hn : 2 ≤ settings.maxHandlerBuilds) :
    (top.construct declared settings).model =
      .ok ⟨(top.workspace.withChild s item y).graph, .root, top.workspace.observers.toList⟩ := by
  let first : Attachment B := ⟨s, ⟨x, copy⟩⟩
  let second : Attachment B := ⟨(top.workspace.graph.extend s ⟨false, .name item⟩).1,
    ⟨y, some top.workspace.copies⟩⟩
  let start : Construction B := { workspace := top.workspace }
  have hfirst : ∀ k, declared first.handler.behaviour k = [pathDeclaration ([item], y)] := hx
  have hsecond : ∀ k, declared second.handler.behaviour k = [] := hy
  obtain ⟨hmiddle, hmiddleOk⟩ := build_child hfirst start
  obtain ⟨hlast, hlastOk⟩ := build_plain hsecond (start.build declared first)
  have hattachments : (top.workspace.withChild s item y).attachments = #[first, second] := by
    rw [Workspace.withChild, ha]
    rfl
  have hdue : start.Due settings.maxHandlerBuilds first := by
    refine ⟨?_, List.not_mem_nil, Nat.lt_of_lt_of_le Nat.zero_lt_two hn⟩
    show top.workspace.attachments[0]? = _
    rw [ha]
    rfl
  have hdue' : (start.build declared first).Due settings.maxHandlerBuilds second := by
    refine ⟨?_, fun hm => ?_, hn⟩
    · rw [hmiddle]
      show (top.workspace.withChild s item y).attachments[1]? = _
      rw [hattachments]
      rfl
    · have hsame := List.mem_singleton.1 hm
      exact hxy (congrArg (·.handler.behaviour) hsame).symm
  have hdone : ((start.build declared first).build declared second).workspace.attachments[
      ((start.build declared first).build declared second).position]? = none := by
    rw [hlast, hmiddle]
    show (top.workspace.withChild s item y).attachments[2]? = none
    rw [hattachments]
    rfl
  have hrun : top.construct declared settings =
      (start.build declared first).build declared second := by
    show start.run declared settings.maxHandlerBuilds = _
    rw [run_of_step (.build hdue hmiddleOk), run_of_step (.build hdue' hlastOk), run_of_done hdone]
  rw [hrun, model, hlastOk, hlast, hmiddle]
  rfl

/-- There is no other model. -/
theorem model_of_child {settings : BuildSettings} {model : Model B}
    (hm : (top.construct declared settings).model = .ok model) :
    model =
      ⟨(top.workspace.withChild s item y).graph, .root, top.workspace.observers.toList⟩ := by
  let first : Attachment B := ⟨s, ⟨x, copy⟩⟩
  let second : Attachment B := ⟨(top.workspace.graph.extend s ⟨false, .name item⟩).1,
    ⟨y, some top.workspace.copies⟩⟩
  let start : Construction B := { workspace := top.workspace }
  have hfirst : ∀ k, declared first.handler.behaviour k = [pathDeclaration ([item], y)] := hx
  obtain ⟨hmiddle, -⟩ := build_child hfirst start
  obtain ⟨last, hsteps, hends⟩ := ends_run declared settings.maxHandlerBuilds start
  obtain ⟨-, hlast, -⟩ := hends.done_of_model hm
  obtain ⟨-, hrest⟩ := due_of_steps (a := first) hsteps hlast
    (show top.workspace.attachments[0]? = _ by rw [ha]; rfl) List.not_mem_nil
  obtain ⟨hdue, -⟩ := due_of_steps (a := second) hrest hlast (by
      rw [hmiddle]
      show (top.workspace.withChild s item y).attachments[1]? = _
      rw [Workspace.withChild, ha]
      rfl) fun hm => hxy (congrArg (·.handler.behaviour) (List.mem_singleton.1 hm)).symm
  have hbudget : 2 ≤ settings.maxHandlerBuilds := hdue.affordable
  rw [model_ok_of_child ha hx hy hxy hbudget] at hm
  exact (Except.ok.inj hm).symm

end
end Construction
end StreamSelect
