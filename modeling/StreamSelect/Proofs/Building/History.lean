import StreamSelect.Construction
import StreamSelect.Proofs.Building.Change

/-! The scopes of one model. They work on a common workspace, none knows of the others, and handlers
that are attached open further ones. Whatever they declare, in whatever order, the states that their
selectors hold stay where the steps lead. -/
namespace StreamSelect

variable {B : Type}

/-- A workspace, and the scopes that have made `allowed` declarations on it. Any of them may go on
declaring at any time, also from where it stood before its latest declarations. -/
inductive Workspace.History (n : Nat) (allowed : Declaration B → Prop) :
    Workspace B → List (Builder B) → Prop
  | ofModel : History n allowed (Builder.ofModel n).workspace [.ofModel n]
  | perform {w : Workspace B} {scopes : List (Builder B)} {b : Builder B} {d : Declaration B} :
    History n allowed w scopes → b ∈ scopes → allowed d →
      History n allowed ({ b with workspace := w }.perform d).2.workspace
        (({ b with workspace := w }.perform d).2 :: scopes)
  | nested {w : Workspace B} {scopes : List (Builder B)} {a : Attachment B} :
    History n allowed w scopes → a ∈ w.attachments →
      History n allowed w (.nested w a.state :: scopes)

/-- What may become of a workspace and its scopes, from one point of a build on. -/
inductive Workspace.Later (allowed : Declaration B → Prop) (w : Workspace B)
    (scopes : List (Builder B)) : Workspace B → List (Builder B) → Prop
  | now : Later allowed w scopes w scopes
  | perform {w' : Workspace B} {scopes' : List (Builder B)} {b : Builder B} {d : Declaration B} :
    Later allowed w scopes w' scopes' → b ∈ scopes' → allowed d →
      Later allowed w scopes ({ b with workspace := w' }.perform d).2.workspace
        (({ b with workspace := w' }.perform d).2 :: scopes')
  | nested {w' : Workspace B} {scopes' : List (Builder B)} {a : Attachment B} :
    Later allowed w scopes w' scopes' → a ∈ w'.attachments →
      Later allowed w scopes w' (.nested w' a.state :: scopes')

namespace Workspace.Later

variable {allowed : Declaration B → Prop} {w w' : Workspace B} {scopes scopes' : List (Builder B)}

theorem mem (h : Later allowed w scopes w' scopes') {b : Builder B} (hb : b ∈ scopes) :
    b ∈ scopes' := by
  induction h with
  | now => exact hb
  | perform _ _ _ ih => exact List.mem_cons_of_mem _ ih
  | nested _ _ ih => exact List.mem_cons_of_mem _ ih

/-! ### Lists of declarations, and the handlers of a construction -/

theorem performEach (h : Later allowed w scopes w' scopes') {b : Builder B} (hb : b ∈ scopes')
    {ds : List (Declaration B)} (hd : ∀ d ∈ ds, allowed d) :
    ∃ later, Later allowed w scopes ({ b with workspace := w' }.performEach ds).2.workspace
      later := by
  induction ds generalizing b w' scopes' with
  | nil => exact ⟨scopes', h⟩
  | cons d ds ih =>
    have hnext := h.perform hb (hd d List.mem_cons_self)
    exact ih hnext List.mem_cons_self fun d hm => hd d (List.mem_cons_of_mem _ hm)

theorem performAll (h : Later allowed w scopes w' scopes') {b : Builder B} (hb : b ∈ scopes')
    {ds : List (Declaration B)} (hd : ∀ d ∈ ds, allowed d) :
    ∃ later, Later allowed w scopes ({ b with workspace := w' }.performAll ds).2.workspace
      later := by
  induction ds generalizing b w' scopes' with
  | nil => exact ⟨scopes', h⟩
  | cons d ds ih =>
    have hnext := h.perform hb (hd d List.mem_cons_self)
    rw [Builder.performAll]
    split
    rename_i outcome later hp
    rw [hp] at hnext
    split
    · exact ⟨_, hnext⟩
    · exact ih hnext List.mem_cons_self fun d hm => hd d (List.mem_cons_of_mem _ hm)

variable {declared : B → Nat → List (Declaration B)}

theorem build (hd : ∀ x k, ∀ d ∈ declared x k, allowed d) {c : Construction B}
    (h : Later allowed w scopes c.workspace scopes') {a : Attachment B}
    (ha : c.workspace.attachments[c.position]? = some a) :
    ∃ later, Later allowed w scopes (c.build declared a).workspace later :=
  (h.nested (Array.mem_of_getElem? ha)).performAll List.mem_cons_self fun d hm => hd _ _ d hm

theorem run [DecidableEq B] (hd : ∀ x k, ∀ d ∈ declared x k, allowed d) {budget : Nat}
    {c : Construction B} (h : ∃ scopes', Later allowed w scopes c.workspace scopes') :
    ∃ scopes', Later allowed w scopes (c.run declared budget).workspace scopes' := by
  fun_induction c.run declared budget with
  | case1 c hn => exact h
  | case2 c a ha hm ih => exact ih h
  | case3 c a ha hm hb next hf =>
    obtain ⟨scopes, h⟩ := h
    exact h.build hd ha
  | case4 c a ha hm hb next hf ih =>
    obtain ⟨scopes, h⟩ := h
    exact ih (h.build hd ha)
  | case5 c a ha hm hb => exact h

end Workspace.Later

namespace Workspace.History

variable {n : Nat} {allowed : Declaration B → Prop} {w : Workspace B} {scopes : List (Builder B)}

/-- Selectors hold the states that their steps lead to, also those of scopes that others have left
behind. -/
theorem cached (h : w.History n allowed scopes) :
    w.Fit 0 ∧ ∀ b ∈ scopes, { b with workspace := w }.Cached := by
  induction h with
  | ofModel =>
    have hfit : (Builder.ofModel n : Builder B).Fit 0 := Builder.fit_ofModel n (Nat.zero_le 1)
    refine ⟨hfit.workspace, fun b hb => ?_⟩
    rw [List.mem_singleton.1 hb]
    exact .of_empty hfit rfl rfl
  | @perform w scopes b d _ hb _ ih =>
    obtain ⟨hw, hscopes⟩ := ih
    obtain ⟨hlater, hgrows⟩ := (hscopes b hb).changes ((hscopes b hb).changes_perform d)
    refine ⟨hlater.fit.workspace, fun c hc => ?_⟩
    rcases List.mem_cons.1 hc with rfl | hc
    · exact hlater
    · exact ((hscopes c hc).onto hlater.fit.workspace hgrows.graph).1
  | @nested w scopes a _ ha ih =>
    obtain ⟨hw, hscopes⟩ := ih
    refine ⟨hw, fun c hc => ?_⟩
    rcases List.mem_cons.1 hc with rfl | hc
    · exact .of_empty (.nested hw (hw.attachments a ha)) rfl rfl
    · exact hscopes c hc

/-! ### Later points of the build -/

theorem later (h : w.History n allowed scopes) {w' : Workspace B} {scopes' : List (Builder B)}
    (hl : Later allowed w scopes w' scopes') : w'.History n allowed scopes' := by
  induction hl with
  | now => exact h
  | perform _ hb hd ih => exact ih.perform hb hd
  | nested _ ha ih => exact ih.nested ha

theorem performEach (h : w.History n allowed scopes) {b : Builder B} (hb : b ∈ scopes)
    {ds : List (Declaration B)} (hd : ∀ d ∈ ds, allowed d) :
    ∃ later, ({ b with workspace := w }.performEach ds).2.workspace.History n allowed later := by
  obtain ⟨later, hl⟩ := Later.now.performEach hb hd
  exact ⟨later, h.later hl⟩

theorem run [DecidableEq B] {declared : B → Nat → List (Declaration B)}
    (hd : ∀ x k, ∀ d ∈ declared x k, allowed d) {budget : Nat} {c : Construction B}
    (h : ∃ scopes, c.workspace.History n allowed scopes) :
    ∃ scopes, (c.run declared budget).workspace.History n allowed scopes := by
  obtain ⟨scopes, h⟩ := h
  obtain ⟨later, hl⟩ := Later.run hd ⟨scopes, .now⟩
  exact ⟨later, h.later hl⟩

end Workspace.History
end StreamSelect
