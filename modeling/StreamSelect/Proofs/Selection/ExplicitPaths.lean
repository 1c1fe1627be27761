import StreamSelect.Proofs.Building.NamedScope
import StreamSelect.Proofs.Document.Openings
import StreamSelect.Proofs.Run.Parallel

/-! Handlers on explicit paths. A handler attached to a path of names is called for exactly the
elements whose names from the document element down are those of the path, whatever other paths are
declared, before or after it. -/
namespace StreamSelect

open Relation (ReflTransGen)

variable {B D : Type}

/-- The handlers attached to a path, in the order of their declarations. -/
def attachedAt (entries : List (List Name × B)) (path : List Name) : List B :=
  (entries.filter fun entry => entry.1 == path).map (·.2)

/-- The handlers of an element, given with those around it, innermost first. -/
def pathHandlers (entries : List (List Name × B)) (elements : List StartElement) : List B :=
  attachedAt entries (namePath elements)

/-- Declarations in another order, in which those of one path stand as before. -/
inductive Reordered : List (List Name × B) → List (List Name × B) → Prop
  | refl (entries : List (List Name × B)) : Reordered entries entries
  | swap {x y : List Name × B} (entries : List (List Name × B)) : (x.1 == y.1) = false →
    Reordered (x :: y :: entries) (y :: x :: entries)
  | cons (x : List Name × B) {entries other : List (List Name × B)} :
    Reordered entries other → Reordered (x :: entries) (x :: other)
  | trans {entries other last : List (List Name × B)} :
    Reordered entries other → Reordered other last → Reordered entries last

theorem Reordered.filter_eq {entries other : List (List Name × B)} (h : Reordered entries other)
    (path : List Name) : (entries.filter fun entry => entry.1 == path) =
      other.filter fun entry => entry.1 == path := by
  induction h with
  | refl => rfl
  | @swap x y entries hne =>
    -- at most one of the two is declared for the path
    cases hx : x.1 == path with
    | false => simp [List.filter_cons, hx]
    | true =>
      have hy : (y.1 == path) = false := by rw [← BEq.congr_right hx, BEq.comm, hne]
      simp [hx, hy]
  | cons x _ ih => rw [List.filter_cons, List.filter_cons, ih]
  | trans _ _ ih ih' => exact ih.trans ih'

theorem Reordered.mem {entries other : List (List Name × B)} (h : Reordered entries other)
    {entry : List Name × B} (he : entry ∈ other) : entry ∈ entries := by
  have hf : entry ∈ other.filter fun x => x.1 == entry.1 := List.mem_filter.2 ⟨he, BEq.rfl⟩
  rw [← h.filter_eq] at hf
  exact (List.mem_filter.1 hf).1

theorem Reordered.pathHandlers_eq {entries other : List (List Name × B)}
    (h : Reordered entries other) : pathHandlers entries = pathHandlers other := by
  funext elements
  rw [pathHandlers, pathHandlers, attachedAt, attachedAt, h.filter_eq]

/-! ### The handlers of a state -/

/-- Where the state of a path is that of the elements with its names, the handlers attached to the
state are those attached to the names. -/
theorem attachedAt_of_registers {g : Graph (HandlerRef B)} {entries : List (List Name × B)}
    {attachments : List (Attachment B)} {s : StateId} {path : List Name}
    (hs : ∀ spelled x, g.reach? .root (childChain spelled) = some x →
      (s = x ↔ (path == spelled) = true))
    (h : List.Forall₂ (Builder.Registers g) entries attachments) :
    (handlersAt attachments s).map (·.behaviour) = attachedAt entries path := by
  unfold handlersAt attachedAt
  induction h with
  | nil => rfl
  | @cons entry a entries attachments hr _ ih =>
    obtain ⟨spelled, hspelled, hreach⟩ := hr.reach
    have hsame : (a.state == s) = (entry.1 == path) := by
      rw [Bool.eq_iff_iff, beq_iff_eq, eq_comm, hs spelled a.state hreach, BEq.congr_right hspelled,
        BEq.comm]
    rw [List.filter_cons, List.filter_cons, hsame]
    split
    · rw [List.map_cons, List.map_cons, List.map_cons, ih, hr.behaviour]
    · exact ih

/-- A machine whose automaton goes on from paths of names serves their handlers. -/
theorem Machine.serves_paths {m : Machine B D} {top : Builder B} {w : Workspace B}
    {entries : List (List Name × B)} {own : B → Bool} (h : top.Registered entries)
    (hgraph : m.model.graph = w.graph) (hroot : m.model.root = .root)
    (hg : top.graph.Extends w.graph) {o : Origins} (ha : w.graph.Arranged o)
    (hw : top.workspace.Attaches (fun b => own b = false) w)
    (hown : ∀ entry ∈ entries, own entry.2 = true) : m.Serves own (pathHandlers entries) := by
  intro f outer he
  obtain ⟨new, hnew, hother⟩ := hw.attachments
  have hstate : ∀ spelled x, top.graph.reach? .root (childChain spelled) = some x →
      (f.state = x ↔ (namePath ((f :: outer).map (·.element)) == spelled) = true) := by
    intro spelled x hx
    exact innermost_eq_iff h.free.named (hgraph ▸ hg) (hgraph ▸ ha) hroot he hx
  have haudience : m.audience f.state =
      (handlersAt top.workspace.attachments.toList f.state).map (·.behaviour) ++
        (handlersAt new f.state).map (·.behaviour) := by
    have horder := hw.inOrder h.inOrder f.state
    rw [handlersAt, hnew, List.filter_append, List.map_append] at horder
    show ((m.model.graph.state f.state).handlers).map (·.behaviour) = _
    rw [hgraph, horder, List.map_append]
    rfl
  have hlisted : ∀ b ∈ attachedAt entries (namePath ((f :: outer).map (·.element))),
      own b = true := by
    intro b hb
    obtain ⟨entry, hentry, rfl⟩ := List.mem_map.1 hb
    exact hown entry (List.mem_filter.1 hentry).1
  have hunlisted : ∀ b ∈ (handlersAt new f.state).map (·.behaviour), ¬ own b = true := by
    intro b hb
    obtain ⟨handler, hhandler, rfl⟩ := List.mem_map.1 hb
    obtain ⟨a, ha, rfl⟩ := List.mem_map.1 hhandler
    rw [hother a (List.mem_filter.1 ha).1]
    exact Bool.false_ne_true
  rw [haudience, attachedAt_of_registers hstate h.attachments, List.filter_append,
    List.filter_eq_self.2 hlisted, List.filter_eq_nil_iff.2 hunlisted, List.append_nil]
  rfl

/-! ### Models -/

/-- The construction of a model whose only declarations are handlers on paths. -/
def pathConstruction [DecidableEq B] (n : Nat) (entries : List (List Name × B))
    (declared : B → Nat → List (Declaration B)) (settings : BuildSettings) : Construction B :=
  ((Builder.ofModel n).performEach (entries.map pathDeclaration)).2.construct declared settings

/-- What is promised of handlers attached to paths of names. -/
structure PathsExact [DecidableEq B] (n : Nat) (entries : List (List Name × B))
    (declared : B → Nat → List (Declaration B)) (settings : BuildSettings) : Prop where
  /-- In every run the calls of the handlers for elements are those that their paths ask for, in
  the order of attachment for each element, up to the first error. -/
  calls : ∀ {D : Type} (m : Machine B D),
    (pathConstruction n entries declared settings).model = .ok m.model → ∀ events d,
      Makes (fun b => decide (b ∈ entries.map (·.2))) []
        (m.recorded.play events {} (d, [])).data.2 (m.recorded.play events {} (d, [])).error
        (wantedCalls (pathHandlers entries) [] events)
  /-- Handlers that declare nothing of their own leave only the budget between them and a model. -/
  built : (∀ entry ∈ entries, ∀ k, declared entry.2 k = []) →
    entries.length ≤ settings.maxHandlerBuilds →
      ∃ model, (pathConstruction n entries declared settings).model = .ok model
  /-- Nor does such a model refuse a document, or a part of it. -/
  complete : (∀ entry ∈ entries, ∀ k, declared entry.2 k = []) → ∀ {D : Type} (m : Machine B D),
    (pathConstruction n entries declared settings).model = .ok m.model →
      m.settings.maxDepth = none → (∀ b o d, (m.behaviours.react b o d).failure = none) →
        ∀ (doc : Document) d, (m.recorded.play doc.events {} (d, [])).error = none
  /-- The order in which different paths are declared makes no difference to any run. -/
  reordered : (∀ entry ∈ entries, ∀ k, declared entry.2 k = []) →
    ∀ other, Reordered entries other → ∀ {D : Type} (m m' : Machine B D),
      (pathConstruction n entries declared settings).model = .ok m.model →
      (pathConstruction n other declared settings).model = .ok m'.model →
      m.behaviours = m'.behaviours → m.settings = m'.settings → ∀ events d,
        (m.recorded.play events {} (d, [])).data = (m'.recorded.play events {} (d, [])).data ∧
        (m.recorded.play events {} (d, [])).error = (m'.recorded.play events {} (d, [])).error

theorem registered_paths (n : Nat) (entries : List (List Name × B)) :
    ((Builder.ofModel n).performEach (entries.map pathDeclaration)).2.Registered entries :=
  (Builder.registered_ofModel n).performEach entries

theorem isStepwise_paths (entries : List (List Name × B)) :
    ∀ d ∈ entries.map pathDeclaration, d.isStepwise = true := by
  intro d hd
  obtain ⟨entry, -, rfl⟩ := List.mem_map.1 hd
  rfl

theorem plain_paths {entries : List (List Name × B)} {declared : B → Nat → List (Declaration B)}
    (hplain : ∀ entry ∈ entries, ∀ k, declared entry.2 k = []) (n : Nat) : Construction.Plain declared
    ((Builder.ofModel n).performEach (entries.map pathDeclaration)).2.workspace := by
  intro a ha k
  have hb : a.handler.behaviour ∈ entries.map (·.2) := by
    rw [← Builder.Registers.behaviours (registered_paths n entries).attachments]
    exact List.mem_map_of_mem (Array.mem_toList_iff.2 ha)
  obtain ⟨entry, hentry, hsame⟩ := List.mem_map.1 hb
  rw [← hsame]
  exact hplain entry hentry k

section

variable [DecidableEq B] {n : Nat} {entries : List (List Name × B)}
  {declared : B → Nat → List (Declaration B)} {settings : BuildSettings}

/-- A finished model serves the handlers of its declarations, apart from those that handlers attach
in turn. -/
theorem serves_of_pathConstruction {own : B → Bool}
    (hd : ∀ x k, ∀ d ∈ declared x k, d.isStepwise = true)
    (hother : ∀ x k, ∀ d ∈ declared x k, ∀ y ∈ d.attached, own y = false)
    (hown : ∀ entry ∈ entries, own entry.2 = true) {m : Machine B D}
    (hm : (pathConstruction n entries declared settings).model = .ok m.model) :
    m.Serves own (pathHandlers entries) := by
  obtain ⟨top, htop⟩ :
      ∃ top, ((Builder.ofModel n).performEach (entries.map pathDeclaration)).2 = top := ⟨_, rfl⟩
  have hregistered : top.Registered entries := htop ▸ registered_paths n entries
  rw [pathConstruction, htop] at hm
  obtain ⟨last, hsteps, hmodel, hext, o, ha⟩ :=
    Construction.exists_last_of_model (isStepwise_paths entries) htop hd hm
  have hstart : Construction.Orderly { workspace := top.workspace } :=
    ⟨hregistered.memoized.fit.workspace, List.nodup_nil, rfl, rfl⟩
  have hattaches := Construction.attaches_steps hother hstart hsteps
  exact Machine.serves_paths hregistered (congrArg Model.graph hmodel) (congrArg Model.root hmodel)
    hext ha hattaches hown

/-! ### Handlers that declare nothing -/

section

variable (hplain : ∀ entry ∈ entries, ∀ k, declared entry.2 k = [])
include hplain

theorem model_of_pathConstruction {m : Machine B D}
    (hm : (pathConstruction n entries declared settings).model = .ok m.model) :
    m.Serves (fun _ => true) (pathHandlers entries) ∧ (∀ s, (m.state s).limit = none) ∧
      m.model.observers = [] := by
  have hregistered := registered_paths n entries
  have hsound := (Builder.sound_ofModel n).keeps_performEach (isStepwise_paths entries)
  obtain ⟨o, ha⟩ := hsound.sound.workspace.arranged
  have hmodel := Construction.model_of_plain (plain_paths hplain n) hm
  have hgraph : m.model.graph = _ := congrArg Model.graph hmodel
  refine ⟨?_, fun s => ?_, ?_⟩
  · exact Machine.serves_paths hregistered hgraph (congrArg Model.root hmodel) (.refl _) ha (.refl _)
      fun _ _ => rfl
  · rw [Machine.state, Model.state, hgraph]
    exact hregistered.free.limit s
  · rw [hmodel, hregistered.observers]

theorem pathConstruction_ok (hn : entries.length ≤ settings.maxHandlerBuilds) :
    ∃ model, (pathConstruction n entries declared settings).model = .ok model := by
  have hregistered := registered_paths n entries
  have hsize := hregistered.attachments.length_eq
  rw [hsize] at hn
  exact ⟨_, Construction.model_ok_of_plain hregistered.memoized.fit (plain_paths hplain n) hn⟩

end

/-- Handlers on explicit paths are exact, if no other handler is one of them and none adds explicit
transitions. -/
theorem exact_paths (n : Nat) (entries : List (List Name × B))
    {declared : B → Nat → List (Declaration B)} (settings : BuildSettings)
    (hd : ∀ x k, ∀ d ∈ declared x k, d.isStepwise = true)
    (hother : ∀ x k, ∀ d ∈ declared x k, ∀ y ∈ d.attached, y ∉ entries.map (·.2)) :
    PathsExact n entries declared settings where
  calls m hm events d := by
    have hserves := serves_of_pathConstruction hd
      (fun x k d hm y hy => decide_eq_false (hother x k d hm y hy))
      (fun entry he => decide_eq_true (List.mem_map_of_mem he)) hm
    exact Machine.makes_play (r := {}) hserves events trivial m.enteredAll_nil (d, [])
  built hplain hn := pathConstruction_ok hplain hn
  complete hplain D m hm hdepth hreact doc d := by
    obtain ⟨-, hlimit, -⟩ := model_of_pathConstruction hplain hm
    have hunhindered : m.Unhindered := ⟨hdepth, hlimit, hreact⟩
    exact hunhindered.error_play doc d
  reordered hplain other hreordered D m m' hm hm' hbehaviours hsettings events d := by
    obtain ⟨hserves, hlimit, hobservers⟩ := model_of_pathConstruction hplain hm
    obtain ⟨hserves', hlimit', hobservers'⟩ :=
      model_of_pathConstruction (fun entry he => hplain entry (hreordered.mem he)) hm'
    rw [← hreordered.pathHandlers_eq] at hserves'
    have htwins : Machine.Twins m.recorded m'.recorded (pathHandlers entries) :=
      ⟨congrArg Behaviours.recorded hbehaviours, hsettings, hobservers.trans hobservers'.symm,
        hserves, hserves', hlimit, hlimit'⟩
    have hsteady : ∀ m : Machine B (CallLog B D), Machine.Twins.Steady m {} :=
      fun m => ⟨trivial, m.enteredAll_nil⟩
    have halike := htwins.alike_play events ⟨rfl, rfl, rfl, rfl⟩ (hsteady _) (hsteady _) (d, [])
    exact ⟨halike.data, halike.error⟩

end

/-! Handlers on a book, one of which attaches a handler of its own to notes. -/

def bookPaths : List (List Name × Nat) :=
  [([.plain "book"], 0), ([.plain "book", .plain "title"], 1), ([], 2), ([.plain "book"], 3)]

def movedPaths : List (List Name × Nat) :=
  [([.plain "book", .plain "title"], 1), ([.plain "book"], 0), ([], 2), ([.plain "book"], 3)]

def noteDeclarations (b : Nat) (_ : Nat) : List (Declaration Nat) :=
  if b = 3 then [{ statement := .select none [.select (.child (.plain "note")) []] [.attach 4] }]
  else []

def bookMachine (declared : Nat → Nat → List (Declaration Nat))
    (entries : List (List Name × Nat)) : Machine Nat Unit where
  model := ⟨(pathConstruction 0 entries declared {}).workspace.graph, .root, []⟩
  behaviours := ⟨fun _ => {}, fun _ => {}⟩
  filters := ⟨fun _ _ => false, fun _ _ _ => false⟩

def plainStart (name : String) : StartElement := .ofName (.plain name)

def plainEnd (name : String) : EndElement := ⟨.plain name, none⟩

/-- A title and a note in a book, and a title in the note. -/
def bookEvents : List Event :=
  [.startElement (plainStart "book"), .startElement (plainStart "title"),
    .characters ⟨"Words", none⟩, .endElement (plainEnd "title"),
    .startElement (plainStart "note"), .startElement (plainStart "title"),
    .endElement (plainEnd "title"), .endElement (plainEnd "note"), .endElement (plainEnd "book")]

/-- The title in the note is none of the book, and the book has its handlers in order. Declared in
another order, they are called alike. -/
theorem exact_bookPaths :
    (∀ x k, ∀ d ∈ noteDeclarations x k, d.isStepwise = true) ∧
      (∀ x k, ∀ d ∈ noteDeclarations x k, ∀ y ∈ d.attached, y ∉ bookPaths.map (·.2)) ∧
      elementCalls (fun b => decide (b ∈ bookPaths.map (·.2)))
          ((bookMachine noteDeclarations bookPaths).recorded.play bookEvents {} ((), [])).data.2 =
        [(0, .opened (plainStart "book")), (3, .opened (plainStart "book")),
          (1, .opened (plainStart "title")), (1, .text (plainStart "title") ⟨"Words", none⟩),
          (1, .closed (plainEnd "title")), (0, .closed (plainEnd "book")),
          (3, .closed (plainEnd "book"))] ∧
      ((bookMachine (fun _ _ => []) bookPaths).recorded.play bookEvents {} ((), [])).data =
        ((bookMachine (fun _ _ => []) movedPaths).recorded.play bookEvents {} ((), [])).data := by
  have hd : ∀ x k, ∀ d ∈ noteDeclarations x k, d.isStepwise = true := by
    intro x k d hm
    unfold noteDeclarations at hm
    split at hm
    · exact List.mem_singleton.1 hm ▸ rfl
    · cases hm
  have hother : ∀ x k, ∀ d ∈ noteDeclarations x k, ∀ y ∈ d.attached,
      y ∉ bookPaths.map (·.2) := by
    intro x k d hm y hy
    unfold noteDeclarations at hm
    split at hm
    · rw [List.mem_singleton.1 hm] at hy
      rw [List.mem_singleton.1 hy]
      decide
    · cases hm
  have hexact := exact_paths 0 bookPaths {} hd hother
  have hm : (pathConstruction 0 bookPaths noteDeclarations {}).model =
      .ok (bookMachine noteDeclarations bookPaths).model := by cbv
  have herror : ((bookMachine noteDeclarations bookPaths).recorded.play bookEvents {}
      ((), [])).error = none := by cbv
  obtain ⟨done, hcalls, -, hall⟩ := hexact.calls _ hm bookEvents ()
  have hplain : PathsExact 0 bookPaths (fun _ _ => []) {} :=
    exact_paths 0 bookPaths {} (fun _ _ d hm => by cases hm) fun _ _ d hm => by cases hm
  have hmoved : Reordered bookPaths movedPaths := .swap _ (by decide)
  have hsame := hplain.reordered (fun _ _ _ => rfl) movedPaths hmoved
    (bookMachine (fun _ _ => []) bookPaths) (bookMachine (fun _ _ => []) movedPaths) (by cbv)
    (by cbv) rfl rfl bookEvents ()
  refine ⟨hd, hother, ?_, hsame.1⟩
  rw [hcalls, hall herror]
  rfl

end StreamSelect
