import StreamSelect.Proofs.Building.Nested
import StreamSelect.Proofs.Building.SinglePath
import StreamSelect.Proofs.Selection.Quota

/-! A limit on a path of names. It waits with the selector until this is compiled, and then holds in
every run. A selector that nothing compiles leaves its limit behind. -/
namespace StreamSelect

/-- An action that leaves a limit to its selector, and has no error. -/
def Action.leavesLimit {B : Type} : Action B → Bool
  | .only _ | .link _ _ | .reject _ => false
  | _ => true

/-- An action for which the selector is compiled. -/
def Action.compiles {B : Type} : Action B → Bool
  | .compile | .attach _ | .share _ | .mark _ => true
  | _ => false

namespace Graph

variable {H : Type} {g : Graph H} {path : List Name} {s : StateId}

/-- An automaton in which the state of a path of names is limited, and no other. -/
structure Capped (g : Graph H) (path : List Name) (s : StateId) (n : Nat) : Prop where
  named : g.Named
  reach : g.reach? .root (childChain path) = some s
  limit : ∀ t, (g.state t).limit = if t = s then some n else none

theorem Trail.cap (h : g.Trail path s) (n : Nat) : (g.setLimit s n).Capped path s n := by
  refine ⟨h.named.update s fun _ => rfl, reach?_of_extends (.setLimit g s n) h.reach, fun t => ?_⟩
  rw [setLimit, state_update]
  by_cases ht : t = s
  · rw [if_pos ⟨ht, h.usable.2⟩, if_pos ht]
  · rw [if_neg fun hts => ht hts.1, if_neg ht, h.bare t]

theorem Capped.attach {n : Nat} (h : g.Capped path s n) (t : StateId) (handler : H) :
    (g.attach t handler).Capped path s n :=
  ⟨h.named.update t fun _ => rfl, reach?_of_extends (.attach g t handler) h.reach,
    fun u => (SameLimits.attach g t handler u).trans (h.limit u)⟩

end Graph

namespace Builder

variable {B : Type} {b : Builder B} {id : SelectorId} {path : List Name} {n : Nat} {done : Bool}

theorem graph_limitState (b : Builder B) (s : StateId) (limit : Nat) :
    (b.limitState s limit).graph = b.graph.setLimit s limit := by
  obtain ⟨records, heq⟩ := b.limitState_eq s limit
  rw [heq]
  rfl

/-- Compiling a selector passes its limit on to the state. -/
theorem compile_of_limited {s : Selector} (hs : b.selector? id = some s) (hl : s.limit = some n)
    (base : StateId) :
    b.compile base id = ((b.graph.extend base s.hop).1,
      (b.compiledTo id (b.graph.extend base s.hop)).limitState (b.graph.extend base s.hop).1 n) := by
  unfold compile
  rw [hs]
  simp only [edge_selector, hl]
  rfl

/-- A limit on a selector that is not compiled waits there. -/
theorem limit_of_uncompiled {s : Selector} (hs : b.selector? id = some s) (hx : s.state = none)
    (hn : 1 ≤ n) :
    b.limit (some id) n = .ok (b.updateSelector id fun s => { s with limit := some n }) := by
  rw [limit, if_neg (Nat.ne_of_gt hn)]
  simp only [hs, Option.bind_some, hx]

/-! ### A limit on its way -/

/-- A scope in which a path alone was limited. The limit waits with the selector of its last name, or
the selector is compiled and its state is limited. -/
inductive Limiting (b : Builder B) (id : SelectorId) (path : List Name) (n : Nat) : Bool → Prop
  | waiting {parent : Option SelectorId} {front : List Name} {last : Name}
    (hpath : front ++ [last] = path) (hordered : b.Ordered) (hroot : b.root = .root)
    (hgraph : b.graph = .initial) (hfresh : b.Fresh parent front)
    (hs : b.selector? id =
      some { parent, kind := .child last, constraints := [], limit := some n }) :
    Limiting b id path n false
  | limited {s : Selector} {x : StateId} (hs : b.selector? id = some s) (hx : s.state = some x)
    (hg : b.graph.Capped path x n) : Limiting b id path n true

namespace Limiting

/-- Only the automaton, the root and the selectors matter. -/
theorem of_same (h : b.Limiting id path n done) {later : Builder B} (hg : later.graph = b.graph)
    (hr : later.root = b.root) (hsel : later.selectors = b.selectors) :
    later.Limiting id path n done := by
  have hsame : later.selector? = b.selector? := by
    funext id
    simp only [selector?, hsel]
  cases h with
  | waiting hpath hordered hroot hgraph hfresh hs =>
    refine .waiting hpath ?_ (hr.trans hroot) (hg.trans hgraph) (hfresh.mono ?_) (hsame ▸ hs)
    · unfold Ordered
      rw [hsame]
      exact hordered
    · rw [hsame]
      exact fun _ _ hs => hs
  | limited hs hx hcapped => exact .limited (hsame ▸ hs) hx (hg ▸ hcapped)

/-- Once the selector is compiled its state is limited. -/
theorem stateOf (h : b.Limiting id path n done) :
    (b.stateOf (some id)).2.Limiting id path n true := by
  cases h with
  | @waiting parent front last hpath hordered hroot hgraph hfresh hs =>
    have htrail := (Ahead.trail_stateOf hordered hroot hgraph hfresh).extend last
    have hparent := hordered.selector?_stateOf_parent hs
    rw [hordered.stateOf_of_parent hs rfl, compile_of_limited hparent rfl]
    generalize b.stateOf parent = reached at htrail hparent ⊢
    subst hpath
    have hsel := selector?_compiledTo reached.2 id id (reached.2.graph.extend reached.1
      ⟨false, .name last⟩)
    rw [if_pos rfl, hparent] at hsel
    refine .limited ((selector?_limitState _ _ _ _).trans hsel) rfl ?_
    rw [graph_limitState]
    exact htrail.cap n
  | limited hs hx hg =>
    rw [stateOf_of_state hs hx]
    exact .limited hs hx hg

theorem attach (h : b.Limiting id path n true) (s : StateId) (handler : HandlerRef B) :
    (b.attach s handler).Limiting id path n true := by
  cases h with
  | limited hs hx hg => exact .limited hs hx (hg.attach s handler)

/-- An action for which the selector is compiled limits the state; the others keep the limit. -/
theorem act (h : b.Limiting id path n done) {action : Action B} (ha : action.leavesLimit = true) :
    ∃ answer later, b.act (some id) action = (.ok answer, later) ∧
      later.Limiting id path n (done || action.compiles) := by
  have hcompiled : ∀ {later : Builder B}, later.Limiting id path n true →
      later.Limiting id path n (done || true) := fun h => by rwa [Bool.or_true]
  have hkept : ∀ {later : Builder B}, later.Limiting id path n done →
      later.Limiting id path n (done || false) := fun h => by rwa [Bool.or_false]
  cases action with
  | compile => exact ⟨_, _, rfl, hcompiled h.stateOf⟩
  | inspect view => cases view <;> exact ⟨_, _, rfl, hkept h⟩
  | attach behaviour =>
    have hcopy : (b.freshCopy behaviour).2.Limiting id path n done := h.of_same rfl rfl rfl
    exact ⟨_, _, rfl, hcompiled (hcopy.stateOf.attach _ _)⟩
  | share behaviour => exact ⟨_, _, rfl, hcompiled (h.stateOf.attach _ _)⟩
  | mark key => exact ⟨_, _, rfl, hcompiled (h.stateOf.of_same rfl rfl rfl)⟩
  | bookmark key => exact ⟨_, _, rfl, hkept (h.of_same rfl rfl rfl)⟩
  | only limit | link test key | reject e => cases ha

theorem actAll (h : b.Limiting id path n done) {actions : List (Action B)}
    (ha : ∀ action ∈ actions, action.leavesLimit = true) :
    (b.actAll (some id) actions).2.Limiting id path n (done || actions.any Action.compiles) := by
  induction actions generalizing b done with
  | nil =>
    rw [List.any_nil, Bool.or_false]
    exact h
  | cons action actions ih =>
    obtain ⟨answer, later, hact, hlater⟩ := h.act (ha action List.mem_cons_self)
    have hrest := ih hlater fun a hm => ha a (List.mem_cons_of_mem _ hm)
    rw [Builder.actAll, hact, List.any_cons, ← Bool.or_assoc]
    exact hrest

end Limiting
end Builder

/-! ### Models of one limited path -/

variable {B D : Type}

/-- A limit on the elements at a path of names, and what is done with their selector. -/
def limitDeclaration (path : List Name) (n : Nat) (actions : List (Action B)) : Declaration B :=
  { statement := .select none (pathSteps path ++ [.only n]) actions }

/-- The scope of a model whose only declaration it is. -/
def limitBuilder (k : Nat) (path : List Name) (n : Nat) (actions : List (Action B)) : Builder B :=
  ((Builder.ofModel k).performEach [limitDeclaration path n actions]).2

theorem modify_push_size {α : Type} (xs : Array α) (a : α) (f : α → α) :
    (xs.push a).modify xs.size f = xs.push (f a) := by
  apply Array.ext
  · simp
  · intro i hi _
    rw [Array.size_modify, Array.size_push] at hi
    rw [Array.getElem_modify, Array.getElem_push, Array.getElem_push]
    split <;> split <;> first | rfl | omega

section

variable (k : Nat) {path : List Name} (hpath : path ≠ []) {n : Nat} (hn : 1 ≤ n)
  {actions : List (Action B)} (ha : ∀ action ∈ actions, action.leavesLimit = true)
include hpath hn ha

theorem limiting_limitBuilder :
    ∃ id, (limitBuilder k path n actions).Limiting id path n (actions.any Action.compiles) := by
  rcases path.eq_nil_or_concat' with rfl | ⟨front, last, rfl⟩
  · exact absurd rfl hpath
  obtain ⟨parent, walked, hwalk, hahead, -⟩ := (Builder.Ahead.ofModel k).walk front
  rw [List.nil_append] at hahead
  let new : Selector := { parent, kind := .child last, constraints := [], limit := some n }
  let limited : Builder B := { walked with selectors := walked.selectors.push new }
  let declared : Builder B :=
    { walked with selectors := walked.selectors.push { new with limit := none } }
  have hdeclared : declared.selector? ⟨walked.selectors.size⟩ = some { new with limit := none } :=
    Array.getElem?_push_size
  obtain ⟨hordered, hfresh, hnew, -⟩ := hahead.pushed new rfl limited rfl
  have hsteps : (Builder.ofModel k).walk none (pathSteps (front ++ [last]) ++ [.only n]) =
      (.ok (some ⟨walked.selectors.size⟩), limited) := by
    have hsplit : pathSteps (front ++ [last]) = pathSteps front ++ [.select (.child last) []] :=
      List.map_append
    rw [hsplit, List.append_assoc, Builder.walk_append hwalk, List.singleton_append, Builder.walk,
      hahead.declare]
    show declared.walk (some ⟨walked.selectors.size⟩) [.only n] = _
    rw [Builder.walk, Builder.limit_of_uncompiled hdeclared rfl hn]
    show (Except.ok _, declared.updateSelector ⟨walked.selectors.size⟩ _) = _
    rw [Builder.updateSelector, modify_push_size]
  have hbuilder : limitBuilder k (front ++ [last]) n actions =
      (limited.actAll (some ⟨walked.selectors.size⟩) actions).2 :=
    Builder.perform_of_walk hsteps actions
  have hlimiting : limited.Limiting ⟨walked.selectors.size⟩ (front ++ [last]) n false :=
    .waiting rfl hordered hahead.root hahead.graph hfresh hnew
  rw [hbuilder]
  exact ⟨_, hlimiting.actAll ha⟩

end

/-- Nothing but the path leads to its state, whatever the automaton was extended by. -/
theorem Machine.quota_of_capped {m : Machine B D} {path : List Name} {s : StateId} {n : Nat}
    {g : Graph (HandlerRef B)} (h : g.Capped path s n) (hext : g.Extends m.model.graph)
    (hsame : g.SameLimits m.model.graph) {o : Origins} (ha : m.model.graph.Arranged o)
    (hroot : m.model.root = .root) : m.Quota path s n where
  limit t := (hsame t).trans (h.limit t)
  entry frames he e := by
    let f : Frame := ⟨m.entry (frames.map Frame.ancestor) e, [], e⟩
    have hf : m.EnteredAll (f :: frames) := he.cons rfl
    exact innermost_eq_iff h.named hext ha hroot hf h.reach

/-- A limit on the elements at a path is enforced in every run if the selector is ever compiled, and
in none if it is not. Handlers may declare below the elements in turn, without limits and explicit
transitions. -/
theorem enforces_limit [DecidableEq B] (k : Nat) {path : List Name} (hpath : path ≠ []) {n : Nat}
    (hn : 1 ≤ n) {actions : List (Action B)}
    (ha : ∀ action ∈ actions, action.leavesLimit = true)
    {declared : B → Nat → List (Declaration B)}
    (hstep : ∀ x i, ∀ d ∈ declared x i, d.isStepwise = true)
    (hlimit : ∀ x i, ∀ d ∈ declared x i, d.isUnlimited = true) {settings : BuildSettings}
    {m : Machine B D}
    (hm : ((limitBuilder k path n actions).construct declared settings).model = .ok m.model) :
    (actions.any Action.compiles = true → m.Enforces path n) ∧
      (actions.any Action.compiles = false → ∀ events d name limit,
        (m.play events {} d).cause? ≠ some (.cardinality name limit)) := by
  have hstepwise : ∀ d ∈ [limitDeclaration path n actions], d.isStepwise = true := by
    intro d hd
    rw [List.mem_singleton.1 hd]
    refine List.all_eq_true.2 fun action hmem => ?_
    have hleaves := ha action hmem
    cases action with
    | link test key => cases hleaves
    | _ => rfl
  obtain ⟨id, hlimiting⟩ := limiting_limitBuilder k hpath hn ha
  obtain ⟨top, htop⟩ : ∃ top, limitBuilder k path n actions = top := ⟨_, rfl⟩
  rw [htop] at hm hlimiting
  obtain ⟨last, hsteps, hmodel, hext, o, harranged⟩ :=
    Construction.exists_last_of_model hstepwise htop hstep hm
  have hsame := Construction.sameLimits_steps hlimit hsteps
  have hgraph : m.model.graph = last.workspace.graph := congrArg Model.graph hmodel
  rw [← hgraph] at hext hsame harranged
  generalize actions.any Action.compiles = compiled at hlimiting
  cases hlimiting with
  | limited _ _ hcapped =>
    have hquota := Machine.quota_of_capped hcapped hext hsame harranged (congrArg Model.root hmodel)
    exact ⟨fun _ => hquota.enforces hn, fun hc => by cases hc⟩
  | waiting _ _ _ hinitial _ _ =>
    refine ⟨fun hc => (by cases hc), fun _ events d name limit => ?_⟩
    refine Machine.not_cardinality_of_unlimited (fun t => ?_) events d name limit
    have hnone : (top.graph.state t).limit = none := by rw [hinitial, Graph.state_initial]
    exact (hsame t).trans hnone

/-! At most one element `foo` in the element `xml`. -/

def fooPath : List Name := [.plain "xml", .plain "foo"]

def fooMachine (actions : List (Action Unit)) : Machine Unit Unit where
  model :=
    ⟨((limitBuilder 0 fooPath 1 actions).construct (fun _ _ => []) {}).workspace.graph, .root, []⟩
  behaviours := ⟨fun _ => {}, fun _ => {}⟩
  filters := ⟨fun _ _ => false, fun _ _ _ => false⟩

def emptyFoo : Content := .element (.ofName (.plain "foo")) [] ⟨.plain "foo", none⟩

def twoFoos : Document :=
  ⟨[], .ofName (.plain "xml"), [emptyFoo, emptyFoo], ⟨.plain "xml", none⟩, []⟩

/-- With a handler on it the second one is rejected. -/
theorem enforces_attachedFoo :
    fooPath ≠ [] ∧ 1 ≤ 1 ∧ (∀ action ∈ [Action.attach ()], action.leavesLimit = true) ∧
      ((limitBuilder 0 fooPath 1 [.attach ()]).construct (fun _ _ => []) {}).model =
        .ok (fooMachine [.attach ()]).model ∧
      ∃ name location, ((fooMachine [.attach ()]).play twoFoos.events {} ()).error =
        some ⟨.cardinality name 1, location⟩ := by
  have hpath : fooPath ≠ [] := List.cons_ne_nil _ _
  have ha : ∀ action ∈ [Action.attach ()], action.leavesLimit = true := by
    intro action hm
    rw [List.mem_singleton.1 hm]
    rfl
  have hm : ((limitBuilder 0 fooPath 1 [.attach ()]).construct (fun _ _ => []) {}).model =
      .ok (fooMachine [.attach ()]).model := by cbv
  have hreact : ∀ b o d, ((fooMachine [.attach ()]).behaviours.react b o d).failure = none := by
    intro b o d
    cases o <;> rfl
  have henforces := (enforces_limit 0 hpath (Nat.le_refl 1) ha (fun _ _ _ hd => by cases hd)
    (fun _ _ _ hd => by cases hd) hm).1 rfl
  obtain ⟨pre, e, post, hexcess⟩ := henforces.beyond twoFoos () (by decide)
  obtain ⟨herror, -⟩ := hexcess.rejected (hexcess.reached rfl hreact)
  exact ⟨hpath, Nat.le_refl 1, ha, hm, e.name, _, herror⟩

/-- With nothing done to its selector the limit is lost, and both are accepted. -/
theorem unlimited_foo :
    ((limitBuilder 0 fooPath 1 ([] : List (Action Unit))).construct (fun _ _ => []) {}).model =
        .ok (fooMachine []).model ∧
      (elementsAt fooPath twoFoos.events).length = 2 ∧
      ((fooMachine []).play twoFoos.events {} ()).error = none :=
  ⟨by cbv, rfl, by cbv⟩

end StreamSelect
