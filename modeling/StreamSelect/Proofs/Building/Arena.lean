import Mathlib.Computability.Primrec.List
import StreamSelect.Proofs.Building.History

-- `Primrec.List` has the equations of `List.lookup` that `cbv` evaluates the example below with.

/-! The automaton that all scopes of a model share. Whatever the scopes declare, in whatever order,
it stays coherent. -/
namespace StreamSelect

variable {B : Type}

/-- A workspace and the scopes that were opened on it. Any of them may go on declaring at any time;
handlers that are attached open further ones. A point of the model itself that is kept was made by
one of its scopes and is not the sink. -/
inductive Workspace.Reachable (n : Nat) : Workspace B → List (Builder B) → Prop
  | ofModel : Reachable n (Builder.ofModel n).workspace [.ofModel n]
  | perform {w : Workspace B} {scopes : List (Builder B)} {b : Builder B} {d : Declaration B} :
    Reachable n w scopes → b ∈ scopes → d.PointsFrom n 1 →
      Reachable n ({ b with workspace := w }.perform d).2.workspace
        (({ b with workspace := w }.perform d).2 :: scopes)
  | nested {w : Workspace B} {scopes : List (Builder B)} {a : Attachment B} :
    Reachable n w scopes → a ∈ w.attachments →
      Reachable n w (.nested w a.state :: scopes)

namespace Workspace.Reachable

variable {n : Nat} {w : Workspace B} {scopes : List (Builder B)}

/-- Scopes stay fit on a workspace that others have changed. -/
theorem fit (h : w.Reachable n scopes) :
    w.model = n ∧ w.Fit 1 ∧ ∀ b ∈ scopes, { b with workspace := w }.Fit 1 := by
  induction h with
  | ofModel =>
    have hfit : (Builder.ofModel n : Builder B).Fit 1 := Builder.fit_ofModel n (Nat.le_refl 1)
    refine ⟨rfl, hfit.workspace, fun b hb => ?_⟩
    rw [List.mem_singleton.1 hb]
    exact hfit
  | @perform w scopes b d _ hb hd ih =>
    obtain ⟨hn, hw, hscopes⟩ := ih
    have hd' : d.PointsFrom ({ b with workspace := w } : Builder B).workspace.model 1 := by
      show d.PointsFrom w.model 1
      rw [hn]
      exact hd
    have hk := (hscopes b hb).becomes_perform hd'
    refine ⟨hk.model.trans hn, hk.fit.workspace, fun c hc => ?_⟩
    rcases List.mem_cons.1 hc with rfl | hc
    · exact hk.fit
    · have hf := hscopes c hc
      exact ⟨hk.fit.workspace, hf.root.mono hk.graph,
        fun id s x hs hx => (hf.selectors id s x hs hx).mono hk.graph⟩
  | @nested w scopes a _ ha ih =>
    obtain ⟨hn, hw, hscopes⟩ := ih
    refine ⟨hn, hw, fun c hc => ?_⟩
    rcases List.mem_cons.1 hc with rfl | hc
    · exact Builder.Fit.nested hw (hw.attachments a ha)
    · exact hscopes c hc

theorem iff_history : w.Reachable n scopes ↔ w.History n (·.PointsFrom n 1) scopes := by
  constructor
  · intro h
    induction h with
    | ofModel => exact .ofModel
    | perform _ hb hd ih => exact ih.perform hb hd
    | nested _ ha ih => exact ih.nested ha
  · intro h
    induction h with
    | ofModel => exact .ofModel
    | perform _ hb hd ih => exact ih.perform hb hd
    | nested _ ha ih => exact ih.nested ha

/-- Whatever its scopes have declared, the automaton of a model is coherent: the sink is blank and
no edge leads to it; a match, and the fallback of a match, lead elements that match again to the
match, whatever rules are in scope. -/
theorem graph_coherent (h : w.Reachable n scopes) :
    w.graph.Coherent 1 ∧
      ∀ s, ∀ edge ∈ (w.graph.state s).rules, ∀ fs e, edge.test.holds fs e = true →
        ∀ scope, w.graph.resolve fs edge.target scope e = edge.target ∧
          ∀ d, (w.graph.state edge.target).fallback = some d →
            w.graph.resolve fs d scope e = edge.target := by
  obtain ⟨-, hw, -⟩ := h.fit
  have hc := hw.coherent
  refine ⟨hc, fun s edge hm fs e he scope => ⟨?_, fun d hd => ?_⟩⟩
  · exact Graph.resolve_of_head? (hc.again s edge hm) he scope
  · exact Graph.resolve_of_head? (hc.back s edge hm d hd) he scope

end Workspace.Reachable

/-! Sections at any depth, also reached from the parts of a book. The handler of a section declares
what is anywhere below it. -/

def outlineTop : List (Declaration Unit) :=
  [{ statement :=
      .select none [.select (.named (.plain "section")) []] [.mark "section", .attach ()] },
    { statement := .select none [.select (.child (.plain "book")) []]
        [.link (.name (.plain "part")) "section"] }]

def outlineBelow : List (Declaration Unit) :=
  [{ statement := .select none [.select .descendant []] [.compile] }]

def outlineBuilder : Builder Unit := ((Builder.ofModel 0).performEach outlineTop).2

def outline : Workspace Unit := (outlineBuilder.construct (fun _ _ => outlineBelow) {}).workspace

theorem reachable_outline : ∃ scopes, outline.Reachable 0 scopes := by
  have htop : ∀ d ∈ outlineTop, d.PointsFrom 0 1 := by
    simp [outlineTop, Declaration.PointsFrom]
  have hbelow : ∀ d ∈ outlineBelow, d.PointsFrom 0 1 := by
    simp [outlineBelow, Declaration.PointsFrom]
  simp only [Workspace.Reachable.iff_history]
  apply Workspace.History.run fun _ _ => hbelow
  exact Workspace.History.ofModel.performEach List.mem_cons_self htop

/-- An element named `section` below a section enters the state of the section, from that state and
from its fallback, though a book leads to the section as well. -/
theorem coherent_outline :
    (outline.graph.state .root).rules = [⟨.name (.plain "section"), ⟨2⟩⟩] ∧
      (outline.graph.state ⟨2⟩).fallback = some ⟨4⟩ ∧ outline.graph.Coherent 1 ∧
      outline.graph.resolve ⟨fun _ _ => false, fun _ _ _ => false⟩ ⟨4⟩ [.root]
        (.ofName (.plain "section")) = ⟨2⟩ := by
  have hrules : (outline.graph.state .root).rules = [⟨.name (.plain "section"), ⟨2⟩⟩] := by cbv
  have hfallback : (outline.graph.state ⟨2⟩).fallback = some ⟨4⟩ := by cbv
  obtain ⟨scopes, h⟩ := reachable_outline
  obtain ⟨hcoherent, hagain⟩ := h.graph_coherent
  have hedge : (⟨.name (.plain "section"), ⟨2⟩⟩ : Transition) ∈ (outline.graph.state .root).rules := by
    rw [hrules]
    exact List.mem_singleton_self _
  exact ⟨hrules, hfallback, hcoherent, (hagain _ _ hedge _ _ (by cbv) _).2 _ hfallback⟩

end StreamSelect
