import Mathlib.Computability.Primrec.List
import Mathlib.Data.List.Permutation
import StreamSelect.Proofs.Building.Nested
import StreamSelect.Proofs.Building.Rerooting

-- `Primrec.List` and `List.Permutation` have the equations of `List.lookup` and of pairs that `cbv`
-- evaluates the example below with.

/-! Constructions laid out flat. One builder carries out the declarations of a model and then, in the
order of attachment, those of the attached handlers, each below the cursor its handler was attached
to. It makes the same model as the scopes that the handlers open. -/
namespace StreamSelect

variable {B : Type}

/-- A construction under way in a single builder. -/
structure Inlining (B : Type) where
  flat : FlatBuilder B
  /-- How many attachments have been looked at. -/
  position : Nat := 0
  /-- The attachments whose handlers have declared, the latest first. -/
  built : List (Attachment B) := []
  failure : Option Error := none

namespace Inlining

/-- Carries out what the handler of an attachment declares, below the cursor it was attached to. The
bookmarks are those of the handler. -/
def build (declared : B → Nat → List (Declaration B)) (i : Inlining B) (a : Attachment B) :
    Inlining B :=
  let site := i.flat.sites.getD i.position none
  let scope : FlatBuilder B := { i.flat with builder := { i.flat.builder with bookmarks := [] } }
  let (failure, flat) := scope.performAll site (declared a.handler.behaviour i.built.length)
  { flat, position := i.position + 1, built := a :: i.built, failure }

theorem built_build (declared : B → Nat → List (Declaration B)) (i : Inlining B)
    (a : Attachment B) : (i.build declared a).built = a :: i.built := rfl

/-- Works through the attachments until none is left, a handler fails, or the budget is spent. -/
def run [DecidableEq B] (declared : B → Nat → List (Declaration B)) (budget : Nat)
    (i : Inlining B) : Inlining B :=
  match _h : i.flat.builder.workspace.attachments[i.position]? with
  | none => i
  | some a =>
    if a ∈ i.built then run declared budget { i with position := i.position + 1 }
    else if _h : i.built.length < budget then
      let next := i.build declared a
      if next.failure.isSome then next else run declared budget next
    else { i with failure := some (.configuration (.buildBudget budget)) }
termination_by (budget - i.built.length, i.flat.builder.workspace.attachments.size - i.position)
decreasing_by
  · have hs : i.position < i.flat.builder.workspace.attachments.size :=
      (Array.getElem?_eq_some_iff.1 ‹_›).1
    apply Prod.Lex.right
    omega
  · apply Prod.Lex.left
    simp only [built_build, List.length_cons]
    omega

theorem run_eq [DecidableEq B] (declared : B → Nat → List (Declaration B)) (budget : Nat)
    (i : Inlining B) : i.run declared budget =
      match i.flat.builder.workspace.attachments[i.position]? with
      | none => i
      | some a =>
        if a ∈ i.built then run declared budget { i with position := i.position + 1 }
        else if i.built.length < budget then
          if (i.build declared a).failure.isSome then i.build declared a
          else (i.build declared a).run declared budget
        else { i with failure := some (.configuration (.buildBudget budget)) } := by
  conv =>
    lhs
    rw [run]
  split
  · rename_i hn
    rw [hn]
  · rename_i a ha
    rw [ha]
    rfl

/-- The model of a construction that has come to its end. -/
def model (i : Inlining B) : Except Error (Model B) :=
  match i.failure with
  | some e => .error e
  | none =>
    .ok ⟨i.flat.builder.graph, i.flat.builder.root, i.flat.builder.workspace.observers.toList⟩

end Inlining

/-- The builder of a whole model. -/
def FlatBuilder.ofModel (model : Nat) : FlatBuilder B := { builder := .ofModel model }

/-- The construction of a model in a single builder. -/
def Inlining.ofProgram [DecidableEq B] (m : Nat) (top : List (Declaration B))
    (declared : B → Nat → List (Declaration B)) (settings : BuildSettings) : Inlining B :=
  run declared settings.maxHandlerBuilds { flat := (FlatBuilder.ofModel m).performEach none top }

namespace Builder

/-- A scope is mirrored from its start below a cursor of the state at its root. -/
theorem Mirrors.of_empty {k : Option SelectorId} {n f : Builder B} (hn : n.Fit 0)
    (hf : f.Memoized) (hw : n.workspace.Alike f.workspace) (hk : f.compiled? k = some n.root)
    (hs : n.selectors = #[]) (hb : n.bookmarks = []) (hb' : f.bookmarks = []) : Mirrors k n f := by
  refine ⟨.of_empty hn hs, hf, hw, fun cursor hc => ?_, ?_⟩
  · cases cursor with
    | none =>
      refine ⟨k, .root, fun x hx => ?_⟩
      rw [hk]
      exact hx
    | some id =>
      obtain ⟨s, hid⟩ := hc id rfl
      rw [selector?, hs] at hid
      cases hid
  · rw [hb, hb']
    exact .nil

end Builder

namespace Construction

/-- The construction of a model, with a scope for every handler. -/
def ofProgram [DecidableEq B] (m : Nat) (top : List (Declaration B))
    (declared : B → Nat → List (Declaration B)) (settings : BuildSettings) : Construction B :=
  ((Builder.ofModel m).performEach top).2.construct declared settings

/-- A construction and one that is laid out flat, at the same attachment. -/
structure Inlined (c : Construction B) (i : Inlining B) : Prop where
  fit : c.workspace.Fit 0
  flat : i.flat.builder.Memoized
  root : i.flat.builder.root = .root
  workspace : c.workspace.Alike i.flat.builder.workspace
  placed : i.flat.Placed
  position : c.position = i.position
  built : c.built = i.built
  failure : c.failure = i.failure

namespace Inlined

variable {declared : B → Nat → List (Declaration B)} {budget : Nat} {c : Construction B}
  {i : Inlining B}

theorem next (h : c.Inlined i) :
    c.workspace.attachments[c.position]? = i.flat.builder.workspace.attachments[i.position]? := by
  rw [h.workspace.attachments, h.position]

/-- The cursor of an attachment. -/
theorem compiled?_site (h : c.Inlined i) {a : Attachment B}
    (ha : c.workspace.attachments[c.position]? = some a) :
    i.flat.builder.compiled? (i.flat.sites.getD i.position none) = some a.state := by
  rw [h.next, ← Array.getElem?_toList] at ha
  obtain ⟨hlt, ha⟩ := List.getElem?_eq_some_iff.1 ha
  have hlength := h.placed.length_eq
  have hsite := h.placed.get hlt (hlength ▸ hlt)
  rw [List.getD_eq_getElem?_getD, List.getElem?_eq_getElem (hlength ▸ hlt), Option.getD_some]
  rw [← ha]
  exact hsite

theorem build (h : c.Inlined i) (hd : ∀ x n, ∀ d ∈ declared x n, d.isUnlimited = true)
    {a : Attachment B} (ha : c.workspace.attachments[c.position]? = some a) :
    (c.build declared a).Inlined (i.build declared a) := by
  let scope : FlatBuilder B := { i.flat with builder := { i.flat.builder with bookmarks := [] } }
  have hnested : (Builder.nested c.workspace a.state).Fit 0 :=
    .nested h.fit (h.fit.attachments a (Array.mem_of_getElem? ha))
  have hscope : scope.builder.Memoized :=
    h.flat.of_fit ⟨h.flat.fit.workspace, h.flat.fit.root, h.flat.fit.selectors⟩ (.refl _) rfl rfl
  have hmirrors : Builder.Mirrors (i.flat.sites.getD i.position none)
      (Builder.nested c.workspace a.state) scope.builder :=
    .of_empty hnested hscope h.workspace (h.compiled?_site ha) rfl rfl rfl
  have hplaced : scope.Placed := h.placed
  obtain ⟨hk, herror⟩ := hmirrors.performAll hplaced (hd a.handler.behaviour c.built.length)
  unfold Construction.build Inlining.build
  rw [← h.built]
  constructor
  · exact hk.mirrors.nested.fit.workspace
  · exact hk.mirrors.flat
  · exact hk.grows.root.trans h.root
  · exact hk.mirrors.workspace
  · exact hk.placed
  · exact congrArg (· + 1) h.position
  · rfl
  · exact herror

/-- Both look at the same attachments, build for the same ones, and end alike. -/
theorem run [DecidableEq B] (h : c.Inlined i)
    (hd : ∀ x n, ∀ d ∈ declared x n, d.isUnlimited = true) :
    (c.run declared budget).Inlined (i.run declared budget) := by
  fun_induction c.run declared budget generalizing i with
  | case1 c hn =>
    rw [Inlining.run_eq, ← h.next, hn]
    exact h
  | case2 c a ha hm ih =>
    rw [Inlining.run_eq, ← h.next, ha, ← h.built]
    simp only [hm, ↓reduceIte]
    exact ih { h with position := congrArg (· + 1) h.position, built := rfl }
  | case3 c a ha hm hb next =>
    rename_i hf
    have hnext := h.build hd ha
    rw [Inlining.run_eq, ← h.next, ha, ← h.built]
    simp only [hm, hb, ↓reduceIte]
    rw [← hnext.failure, if_pos hf]
    exact hnext
  | case4 c a ha hm hb next =>
    rename_i hf ih
    have hnext := h.build hd ha
    rw [Inlining.run_eq, ← h.next, ha, ← h.built]
    simp only [hm, hb, ↓reduceIte]
    rw [← hnext.failure, if_neg hf]
    exact ih hnext
  | case5 c a ha hm hb =>
    rw [Inlining.run_eq, ← h.next, ha, ← h.built]
    simp only [hm, hb, ↓reduceIte]
    exact { h with built := rfl, failure := rfl }

/-- After the declarations of the model itself. -/
theorem ofModel {m : Nat} {top : List (Declaration B)} (ht : ∀ d ∈ top, d.isUnlimited = true) :
    Inlined { workspace := ((Builder.ofModel m).performEach top).2.workspace }
      { flat := (FlatBuilder.ofModel m).performEach none top } := by
  have hfit : (Builder.ofModel m : Builder B).Fit 0 := Builder.fit_ofModel m (Nat.zero_le 1)
  have hmirrors : Builder.Mirrors none (.ofModel m)
      (FlatBuilder.ofModel m : FlatBuilder B).builder :=
    .of_empty hfit (.of_empty hfit rfl) ⟨rfl, .refl _, rfl, rfl, rfl, rfl⟩ rfl rfl rfl rfl
  have hk := hmirrors.performEach .nil ht
  constructor
  · exact hk.mirrors.nested.fit.workspace
  · exact hk.mirrors.flat
  · exact hk.grows.root
  · exact hk.mirrors.workspace
  · exact hk.placed
  · rfl
  · rfl
  · rfl

end Inlined

end Construction

/-- Without limits the scopes of the handlers make the model that a single builder makes, which first
carries out the declarations of the model and then those of the handlers, each once for a state, in
the order of attachment, below the cursor of the attachment. -/
theorem Construction.model_alike_inlined [DecidableEq B] (m : Nat) {top : List (Declaration B)}
    {declared : B → Nat → List (Declaration B)} (settings : BuildSettings)
    (ht : ∀ d ∈ top, d.isUnlimited = true) (hd : ∀ x n, ∀ d ∈ declared x n, d.isUnlimited = true) :
    ((FlatBuilder.ofModel m).performEach none top).builder =
        ((Builder.ofModel m).performEach top).2 ∧
      (Construction.ofProgram m top declared settings).built =
        (Inlining.ofProgram m top declared settings).built ∧
      (∀ model, (Construction.ofProgram m top declared settings).model = .ok model →
        ∃ flat, (Inlining.ofProgram m top declared settings).model = .ok flat ∧ model.Alike flat) ∧
      ∀ e, (Construction.ofProgram m top declared settings).model = .error e →
        (Inlining.ofProgram m top declared settings).model = .error e := by
  have h : (Construction.ofProgram m top declared settings).Inlined
      (Inlining.ofProgram m top declared settings) := (Construction.Inlined.ofModel ht).run hd
  refine ⟨FlatBuilder.builder_performEach_none _ _, h.built, ?_⟩
  have hmodel : Model.Alike ⟨_, .root, _⟩ ⟨_, _, _⟩ :=
    ⟨h.workspace.graph, h.root.symm, congrArg Array.toList h.workspace.observers⟩
  unfold Construction.model Inlining.model
  rw [← h.failure]
  cases (Construction.ofProgram m top declared settings).failure with
  | some e => exact ⟨nofun, fun _ he => he⟩
  | none =>
    constructor
    · intro model hm
      cases hm
      exact ⟨_, rfl, hmodel⟩
    · intro e he
      cases he

/-! A catalog of books. The handler of a book attaches another to titles, which leads parts of a title
back to the book and looks at what is below. -/

def catalogTop : List (Declaration Bool) :=
  [{ statement := .select none [.select (.named (.plain "book")) []] [.mark "book", .attach true] },
    { statement := .select none [.select (.child (.plain "catalog")) [],
        .select (.child (.plain "book")) []] [.share true] }]

def catalogBelow : Bool → Nat → List (Declaration Bool)
  | true, _ =>
    [{ statement := .select none [.select (.child (.plain "title")) []]
        [.bookmark "title", .share false] },
      { statement := .select (some "title") [.select .descendant []] [.compile] }]
  | false, _ =>
    [{ statement := .observe false },
      { statement := .select none [] [.link (.name (.plain "part")) "book"] }]

/-- The handlers of books declare, and those of their titles. -/
theorem alike_catalog :
    ∃ model flat : Model Bool,
      (Construction.ofProgram 0 catalogTop catalogBelow {}).model = .ok model ∧
      (Inlining.ofProgram 0 catalogTop catalogBelow {}).model = .ok flat ∧ model.Alike flat ∧
      (Inlining.ofProgram 0 catalogTop catalogBelow {}).built.length = 4 := by
  have htop : ∀ d ∈ catalogTop, d.isUnlimited = true := by decide
  have hbelow : ∀ x n, ∀ d ∈ catalogBelow x n, d.isUnlimited = true := by
    intro x n
    cases x with
    | false => exact List.all_eq_true.1 rfl
    | true => exact List.all_eq_true.1 rfl
  have hbuilt : (Construction.ofProgram 0 catalogTop catalogBelow {}).built.length = 4 := by cbv
  have hends : (Construction.ofProgram 0 catalogTop catalogBelow {}).failure = none := by cbv
  obtain ⟨-, hsame, hmodel, -⟩ := Construction.model_alike_inlined 0 {} htop hbelow
  obtain ⟨model, hm⟩ :
      ∃ model, (Construction.ofProgram 0 catalogTop catalogBelow {}).model = .ok model := by
    unfold Construction.model
    rw [hends]
    exact ⟨_, rfl⟩
  obtain ⟨flat, hf, halike⟩ := hmodel model hm
  exact ⟨model, flat, hm, hf, halike, hsame ▸ hbuilt⟩

end StreamSelect
