import StreamSelect.Proofs.Building.Attachments
import StreamSelect.Proofs.Document.Openings
import StreamSelect.Proofs.Run.Elements

/-! Models of one handler. Where the elements around an element decide whether it enters the state of
the handler, they decide at the start of which elements the handler is called. -/
namespace StreamSelect

variable {B D : Type}

/-- The handlers of an element, given with those around it, where one handler is attached and a test
tells for which elements. -/
def handlersWhere (accepts : List StartElement → StartElement → Bool) (b : B) :
    List StartElement → List B
  | [] => []
  | e :: around => if accepts around e then [b] else []

/-! ### Openings -/

/-- The handler and the element of a call for an element, if it is one at its start. -/
def Occasion.opening? : B × Occasion → Option (B × StartElement)
  | (b, .opened e) => some (b, e)
  | _ => none

theorem openings_eq_elementCalls (calls : List (Call B D)) :
    openings calls = (elementCalls (fun _ => true) calls).filterMap Occasion.opening? := by
  unfold openings elementCalls
  rw [List.filterMap_filterMap]
  congr 1
  funext c
  obtain ⟨b, o, d⟩ := c
  cases o <;> rfl

section

variable (accepts : List StartElement → StartElement → Bool) (b : B)

/-- Only the start of an element asks for a call at its start. -/
theorem openings_wanted (around : List StartElement) (event : Event) :
    (event.wanted (handlersWhere accepts b) around).filterMap Occasion.opening? =
      (event.picked accepts around).map (b, ·) := by
  have hsilent : ∀ (o : Occasion) (audience : List B),
      (∀ b : B, Occasion.opening? (b, o) = none) →
        (audience.map (·, o)).filterMap Occasion.opening? = [] := by
    intro o audience ho
    rw [List.filterMap_map]
    exact List.filterMap_eq_nil_iff.2 fun b _ => ho b
  cases event with
  | startElement e =>
    simp only [Event.wanted, Event.picked, handlersWhere]
    split <;> rfl
  | endElement e =>
    simp only [Event.wanted, Event.picked, List.map_nil]
    split
    · rfl
    · exact hsilent _ _ fun _ => rfl
  | characters c =>
    cases around with
    | nil => rfl
    | cons inner outer => exact hsilent _ _ fun _ => rfl
  | declaration x => rfl

/-- The elements at whose start the handler is to be called. -/
theorem openings_wantedCalls (around : List StartElement) (events : List Event) :
    (wantedCalls (handlersWhere accepts b) around events).filterMap Occasion.opening? =
      (elementsWhere accepts around events).map (b, ·) := by
  induction events generalizing around with
  | nil => rfl
  | cons event events ih =>
    rw [wantedCalls, elementsWhere, List.filterMap_append, List.map_append, ih, openings_wanted]

end

/-- A machine that serves one handler calls it at the start of the elements the test accepts. -/
theorem Machine.openings_of_serves {m : Machine B D}
    {accepts : List StartElement → StartElement → Bool} {b : B}
    (h : m.Serves (fun _ => true) (handlersWhere accepts b)) (events : List Event) (d : D) :
    openings (m.recorded.play events {} (d, [])).data.2 <+:
        (elementsWhere accepts [] events).map (b, ·) ∧
      ((m.recorded.play events {} (d, [])).error = none →
        openings (m.recorded.play events {} (d, [])).data.2 =
          (elementsWhere accepts [] events).map (b, ·)) := by
  obtain ⟨done, hdone, hpre, hall⟩ :=
    Machine.makes_play (r := {}) h events trivial m.enteredAll_nil (d, [])
  rw [openings_eq_elementCalls, hdone, ← openings_wantedCalls]
  exact ⟨hpre.filterMap _, fun he => by rw [hall he]; rfl⟩

/-! ### Scopes of one handler -/

/-- A scope that attached one handler, to a state `x`, and limits nothing. -/
structure Builder.Sole (top : Builder B) (x : StateId) (b : B) : Prop where
  fit : top.Fit 0
  inOrder : top.workspace.InOrder
  attachments : ∃ copy, top.workspace.attachments = #[⟨x, ⟨b, copy⟩⟩]
  limit : ∀ s, (top.graph.state s).limit = none

namespace Builder.Sole

variable {top : Builder B} {x : StateId} {b : B} {declared : B → Nat → List (Declaration B)}

theorem plain (h : top.Sole x b) (hd : ∀ k, declared b k = []) :
    Construction.Plain declared top.workspace := by
  obtain ⟨copy, hattachments⟩ := h.attachments
  intro a ha k
  rw [hattachments, Array.mem_singleton] at ha
  rw [ha]
  exact hd k

variable [DecidableEq B] {settings : BuildSettings}

/-- A handler that declares nothing may do so. -/
theorem model_ok (h : top.Sole x b) (hd : ∀ k, declared b k = [])
    (hn : 0 < settings.maxHandlerBuilds) :
    ∃ model, (top.construct declared settings).model = .ok model := by
  refine ⟨_, Construction.model_ok_of_plain h.fit (h.plain hd) ?_⟩
  obtain ⟨copy, hattachments⟩ := h.attachments
  rw [hattachments]
  exact hn

section

variable (h : top.Sole x b) (hd : ∀ k, declared b k = []) {m : Machine B D}
  (hm : (top.construct declared settings).model = .ok m.model)
include h hd hm

theorem graph_eq : m.model.graph = top.graph :=
  congrArg Model.graph (Construction.model_of_plain (h.plain hd) hm)

theorem root_eq : m.model.root = .root :=
  congrArg Model.root (Construction.model_of_plain (h.plain hd) hm)

/-- A machine serves the handler for the elements that enter its state. -/
theorem serves {accepts : List StartElement → StartElement → Bool}
    (hstate : ∀ f outer, m.EnteredAll (f :: outer) →
      (f.state = x ↔ accepts (outer.map (·.element)) f.element = true)) :
    m.Serves (fun _ => true) (handlersWhere accepts b) := by
  intro f outer he
  obtain ⟨copy, hattachments⟩ := h.attachments
  have hh : (m.state f.state).handlers = if f.state = x then [⟨b, copy⟩] else [] := by
    show (m.model.graph.state f.state).handlers = _
    rw [h.graph_eq hd hm]
    exact h.inOrder.handlers_of_single hattachments f.state
  rw [List.filter_eq_self.2 fun _ _ => rfl, Machine.audience, hh]
  show _ = if accepts (outer.map (·.element)) f.element then [b] else []
  by_cases hs : f.state = x
  · rw [if_pos hs, if_pos ((hstate f outer he).1 hs)]
    rfl
  · rw [if_neg hs, if_neg fun ht => hs ((hstate f outer he).2 ht)]
    rfl

/-- No document is refused, or a part of it. -/
theorem error_play (hdepth : m.settings.maxDepth = none)
    (hreact : ∀ b o d, (m.behaviours.react b o d).failure = none) (doc : Document) (d : D) :
    (m.recorded.play doc.events {} (d, [])).error = none := by
  have hlimit : ∀ s, (m.state s).limit = none := by
    intro s
    rw [Machine.state, Model.state, h.graph_eq hd hm]
    exact h.limit s
  have hunhindered : m.Unhindered := ⟨hdepth, hlimit, hreact⟩
  exact hunhindered.error_play doc d

end
end Sole

/-- What is promised of a handler that alone is attached in a model, for the elements that a test
accepts. -/
structure CalledWhere [DecidableEq B] (top : Builder B)
    (accepts : Filters → List StartElement → StartElement → Bool) (b : B)
    (declared : B → Nat → List (Declaration B)) (settings : BuildSettings) : Prop where
  /-- Unless it may not declare, though it declares nothing, there is a model. -/
  built : 0 < settings.maxHandlerBuilds →
    ∃ model, (top.construct declared settings).model = .ok model
  /-- In every run it is called once at the start of every element that the test accepts, in document
  order and for no other element, up to the first error. -/
  openings : ∀ {D : Type} (m : Machine B D), (top.construct declared settings).model = .ok m.model →
    ∀ events d,
      openings (m.recorded.play events {} (d, [])).data.2 <+:
          (elementsWhere (accepts m.filters) [] events).map (b, ·) ∧
        ((m.recorded.play events {} (d, [])).error = none →
          openings (m.recorded.play events {} (d, [])).data.2 =
            (elementsWhere (accepts m.filters) [] events).map (b, ·))
  /-- No document is refused, or a part of it. -/
  complete : ∀ {D : Type} (m : Machine B D), (top.construct declared settings).model = .ok m.model →
    m.settings.maxDepth = none → (∀ b o d, (m.behaviours.react b o d).failure = none) →
      ∀ (doc : Document) d, (m.recorded.play doc.events {} (d, [])).error = none

/-- If the elements that the test accepts are those that enter the state of the handler, the promise
is kept. -/
theorem Sole.calledWhere [DecidableEq B] {top : Builder B} {x : StateId} {b : B}
    {declared : B → Nat → List (Declaration B)} (h : top.Sole x b) (hd : ∀ k, declared b k = [])
    (settings : BuildSettings) {accepts : Filters → List StartElement → StartElement → Bool}
    (hstate : ∀ {D : Type} (m : Machine B D), m.model.graph = top.graph → m.model.root = .root →
      ∀ f outer, m.EnteredAll (f :: outer) →
        (f.state = x ↔ accepts m.filters (outer.map (·.element)) f.element = true)) :
    top.CalledWhere accepts b declared settings where
  built := h.model_ok hd
  openings m hm events d := Machine.openings_of_serves
    (h.serves hd hm (hstate m (h.graph_eq hd hm) (h.root_eq hd hm))) events d
  complete _ hm := h.error_play hd hm

end Builder
end StreamSelect
