import Mathlib.Logic.Relation
import StreamSelect.Construction
import StreamSelect.Proofs.Building.Perform

/-! The scopes of a construction. Each handler that is attached opens a scope below its state. The
states compiled there belong to the chain of that state with the steps declared in the scope behind
it, and they are what that chain leads to in the finished automaton. -/
namespace StreamSelect.Construction

open Relation (ReflTransGen)

variable {B : Type}

/-- The scope that the handler of an attachment leaves. -/
def scope (declared : B → Nat → List (Declaration B)) (c : Construction B) (a : Attachment B) :
    Builder B :=
  ((Builder.nested c.workspace a.state).performAll (declared a.handler.behaviour c.built.length)).2

/-- The attachment whose handler declares next. -/
structure Due (budget : Nat) (c : Construction B) (a : Attachment B) : Prop where
  next : c.workspace.attachments[c.position]? = some a
  unbuilt : a ∉ c.built
  affordable : c.built.length < budget

/-- One step of a construction that goes well. -/
inductive Step (declared : B → Nat → List (Declaration B)) (budget : Nat) :
    Construction B → Construction B → Prop
  | skip {c : Construction B} {a : Attachment B} :
    c.workspace.attachments[c.position]? = some a → a ∈ c.built →
      Step declared budget c { c with position := c.position + 1 }
  | build {c : Construction B} {a : Attachment B} :
    c.Due budget a → (c.build declared a).failure = none →
      Step declared budget c (c.build declared a)

/-- The scopes of a model: the one of the model itself, and those that its handlers open. -/
inductive Scopes (declared : B → Nat → List (Declaration B)) (budget : Nat) (top : Builder B) :
    Builder B → Prop
  | top : Scopes declared budget top top
  | nested {c : Construction B} {a : Attachment B} :
    ReflTransGen (Step declared budget) { workspace := top.workspace } c → c.Due budget a →
      Scopes declared budget top (c.scope declared a)

/-- The chains that a state was compiled for. A cursor of a scope counts as the chain of the root
of the scope, followed by the steps of the cursor. -/
inductive CompiledFor (scopes : Builder B → Prop) : StateId → Chain → Prop
  | root : CompiledFor scopes .root []
  | cursor {b : Builder B} {cursor : Option SelectorId} {above chain : Chain} {s : StateId} :
    scopes b → CompiledFor scopes b.root above → b.Spells cursor chain →
      b.compiled? cursor = some s → CompiledFor scopes s (above ++ chain)

/-- How a construction ends: with nothing left to do, with a handler that fails, or with a spent
budget. -/
inductive Ends (declared : B → Nat → List (Declaration B)) (budget : Nat) (last : Construction B) :
    Construction B → Prop
  | done : last.workspace.attachments[last.position]? = none → Ends declared budget last last
  | failed {a : Attachment B} {e : Error} :
    last.Due budget a → (last.build declared a).failure = some e →
      Ends declared budget last (last.build declared a)
  | spent {a : Attachment B} :
    last.workspace.attachments[last.position]? = some a → a ∉ last.built →
      budget ≤ last.built.length →
        Ends declared budget last { last with failure := some (.configuration (.buildBudget budget)) }

variable {declared : B → Nat → List (Declaration B)} {budget : Nat}

section

variable [DecidableEq B]

/-- A round of a construction, as an equation that rewrites once. -/
theorem run_eq (declared : B → Nat → List (Declaration B)) (budget : Nat) (c : Construction B) :
    c.run declared budget =
      match c.workspace.attachments[c.position]? with
      | none => c
      | some a =>
        if a ∈ c.built then run declared budget { c with position := c.position + 1 }
        else if c.built.length < budget then
          if (c.build declared a).failure.isSome then c.build declared a
          else (c.build declared a).run declared budget
        else { c with failure := some (.configuration (.buildBudget budget)) } := by
  conv =>
    lhs
    rw [run]
  split
  · rename_i hn
    rw [hn]
  · rename_i a ha
    rw [ha]
    rfl

theorem run_of_done {c : Construction B} (hn : c.workspace.attachments[c.position]? = none) :
    c.run declared budget = c := by
  rw [run_eq declared budget c, hn]

theorem run_of_skip {c : Construction B} {a : Attachment B}
    (hn : c.workspace.attachments[c.position]? = some a) (hm : a ∈ c.built) :
    c.run declared budget = run declared budget { c with position := c.position + 1 } := by
  rw [run_eq declared budget c, hn]
  exact if_pos hm

theorem run_of_due {c : Construction B} {a : Attachment B} (hd : c.Due budget a) :
    c.run declared budget = if (c.build declared a).failure.isSome then c.build declared a
      else run declared budget (c.build declared a) := by
  rw [run_eq declared budget c, hd.next]
  dsimp only
  rw [if_neg hd.unbuilt, if_pos hd.affordable]

theorem run_of_step {c next : Construction B} (h : Step declared budget c next) :
    c.run declared budget = next.run declared budget := by
  cases h with
  | skip hn hm => exact run_of_skip hn hm
  | build hd hf =>
    rw [run_of_due hd, hf]
    rfl

theorem run_of_steps {c later : Construction B}
    (h : ReflTransGen (Step declared budget) c later) :
    c.run declared budget = later.run declared budget := by
  induction h with
  | refl => rfl
  | tail _ hstep ih => exact ih.trans (run_of_step hstep)

theorem ends_run (declared : B → Nat → List (Declaration B)) (budget : Nat) (c : Construction B) :
    ∃ last, ReflTransGen (Step declared budget) c last ∧
      Ends declared budget last (c.run declared budget) := by
  fun_induction c.run declared budget with
  | case1 c hn => exact ⟨c, .refl, .done hn⟩
  | case2 c a ha hm ih =>
    obtain ⟨last, hsteps, hends⟩ := ih
    exact ⟨last, .head (.skip ha hm) hsteps, hends⟩
  | case3 c a ha hm hb next hf =>
    obtain ⟨e, he⟩ := Option.isSome_iff_exists.1 hf
    exact ⟨c, .refl, .failed ⟨ha, hm, hb⟩ he⟩
  | case4 c a ha hm hb next hf ih =>
    rw [Bool.not_eq_true, Option.isSome_eq_false_iff, Option.isNone_iff_eq_none] at hf
    obtain ⟨last, hsteps, hends⟩ := ih
    exact ⟨last, .head (.build ⟨ha, hm, hb⟩ hf) hsteps, hends⟩
  | case5 c a ha hm hb => exact ⟨c, .refl, .spent ha hm (Nat.le_of_not_lt hb)⟩


/-- A construction that ends well went well all the way. -/
theorem steps_run {c : Construction B} (h : (c.run declared budget).failure = none) :
    ReflTransGen (Step declared budget) c (c.run declared budget) := by
  obtain ⟨last, hsteps, hends⟩ := ends_run declared budget c
  generalize c.run declared budget = r at h hends ⊢
  cases hends with
  | done _ => exact hsteps
  | failed _ he => exact nomatch h.symm.trans he
  | spent _ _ _ => exact nomatch h

theorem failure_of_due {c : Construction B} {a : Attachment B} (hd : c.Due budget a)
    (h : (c.run declared budget).failure = none) : (c.build declared a).failure = none := by
  rw [run_of_due hd] at h
  split at h
  · exact h
  · rename_i hf
    rwa [Bool.not_eq_true, Option.isSome_eq_false_iff, Option.isNone_iff_eq_none] at hf

end

/-! ### What every step keeps -/

section

variable {top : Builder B}

/-- What holds of a construction at each of its steps. -/
structure Sound (declared : B → Nat → List (Declaration B)) (budget : Nat) (top : Builder B)
    (c : Construction B) : Prop where
  workspace : c.workspace.Sound
  attachments : ∀ a ∈ c.workspace.attachments,
    ∃ chain, CompiledFor (Scopes declared budget top) a.state chain

theorem keeps_scope (hd : ∀ x n, ∀ d ∈ declared x n, d.isStepwise = true) {c : Construction B}
    (hw : c.workspace.Sound) {a : Attachment B} (hdue : c.Due budget a) :
    (Builder.nested c.workspace a.state).Keeps (c.scope declared a) := by
  have ha : a ∈ c.workspace.attachments := Array.mem_of_getElem? hdue.next
  have hn := Builder.sound_nested hw (hw.attachments a ha)
  exact hn.keeps_performAll fun d hm => hd _ _ d hm

theorem sound_step (hd : ∀ x n, ∀ d ∈ declared x n, d.isStepwise = true) {c next : Construction B}
    (hsteps : ReflTransGen (Step declared budget) { workspace := top.workspace } c)
    (h : Sound declared budget top c) (hs : Step declared budget c next) :
    Sound declared budget top next ∧ c.workspace.graph.Extends next.workspace.graph := by
  cases hs with
  | skip hn hm => exact ⟨⟨h.workspace, h.attachments⟩, .refl _⟩
  | build hdue hf =>
    rename_i a
    have hk := keeps_scope hd h.workspace hdue
    have hroot : (c.scope declared a).root = a.state := hk.extension.root
    obtain ⟨above, habove⟩ := h.attachments a (Array.mem_of_getElem? hdue.next)
    refine ⟨⟨hk.sound.workspace, fun x hx => ?_⟩, hk.extension.graph⟩
    rcases hk.extension.attachments x hx with hx | ⟨cursor, hc⟩
    · exact h.attachments x hx
    · obtain ⟨chain, hchain⟩ := hk.sound.exists_spells (Builder.knows_of_compiled? hc)
      exact ⟨_, .cursor (.nested hsteps hdue) (hroot ▸ habove) hchain hc⟩

theorem sound_steps (hd : ∀ x n, ∀ d ∈ declared x n, d.isStepwise = true) {c later : Construction B}
    (hsteps : ReflTransGen (Step declared budget) { workspace := top.workspace } c)
    (h : Sound declared budget top c) (hl : ReflTransGen (Step declared budget) c later) :
    Sound declared budget top later ∧ c.workspace.graph.Extends later.workspace.graph := by
  induction hl with
  | refl => exact ⟨h, .refl _⟩
  | tail hmore hstep ih =>
    obtain ⟨hs, hg⟩ := sound_step hd (hsteps.trans hmore) ih.1 hstep
    exact ⟨hs, ih.2.trans hg⟩

/-- The scope of a whole model. -/
theorem sound_top {model : Nat} {ds : List (Declaration B)}
    (hds : ∀ d ∈ ds, d.isStepwise = true) (ht : ((Builder.ofModel model).performEach ds).2 = top) :
    top.Sound ∧ top.root = .root ∧ Sound declared budget top { workspace := top.workspace } := by
  have hk := (Builder.sound_ofModel model).keeps_performEach hds
  rw [ht] at hk
  have hroot : top.root = .root := hk.extension.root
  have habove : CompiledFor (Scopes declared budget top) top.root [] := by
    rw [hroot]
    exact .root
  refine ⟨hk.sound, hroot, hk.sound.workspace, fun a ha => ?_⟩
  rcases hk.extension.attachments a ha with ha | ⟨cursor, hc⟩
  · cases Array.not_mem_empty a ha
  · obtain ⟨chain, hchain⟩ := hk.sound.exists_spells (Builder.knows_of_compiled? hc)
    exact ⟨_, .cursor .top habove hchain hc⟩

variable [DecidableEq B]

/-- Every scope is sound, and its automaton grows into the one of the model. -/
theorem sound_scopes (hd : ∀ x n, ∀ d ∈ declared x n, d.isStepwise = true) (ht : top.Sound)
    (hs : Sound declared budget top { workspace := top.workspace })
    (hf : (run declared budget { workspace := top.workspace }).failure = none) {b : Builder B}
    (hb : Scopes declared budget top b) :
    b.Sound ∧
      b.graph.Extends (run declared budget { workspace := top.workspace }).workspace.graph := by
  cases hb with
  | top => exact ⟨ht, (sound_steps hd .refl hs (steps_run hf)).2⟩
  | nested hsteps hdue =>
    rename_i c a
    have hc := (sound_steps hd .refl hs hsteps).1
    rw [run_of_steps hsteps] at hf ⊢
    have hbuild : Step declared budget c (c.build declared a) :=
      .build hdue (failure_of_due hdue hf)
    have hnext := (sound_step hd hsteps hc hbuild).1
    rw [run_of_step hbuild] at hf ⊢
    refine ⟨(keeps_scope hd hc.workspace hdue).sound, ?_⟩
    exact (sound_steps hd (hsteps.tail hbuild) hnext (steps_run hf)).2

/-- In the automaton of a finished model every chain leads to the states compiled for it, and
handlers stand only at such states. -/
theorem reach?_of_compiledFor {n : Nat} {ds : List (Declaration B)} {settings : BuildSettings}
    (hds : ∀ d ∈ ds, d.isStepwise = true) (hd : ∀ x k, ∀ d ∈ declared x k, d.isStepwise = true)
    (ht : ((Builder.ofModel n).performEach ds).2 = top) {model : Model B}
    (hm : (top.construct declared settings).model = .ok model) :
    (∃ o, model.graph.Arranged o) ∧ model.root = .root ∧
      (∀ s chain, CompiledFor (Scopes declared settings.maxHandlerBuilds top) s chain →
        model.graph.reach? .root chain = some s) ∧
      ∀ s, ∀ h ∈ (model.graph.state s).handlers,
        ∃ chain, CompiledFor (Scopes declared settings.maxHandlerBuilds top) s chain := by
  unfold Builder.construct at hm
  unfold Construction.model at hm
  split at hm
  · cases hm
  rename_i hf
  cases hm
  obtain ⟨htop, hs⟩ : top.Sound ∧
      Sound declared settings.maxHandlerBuilds top { workspace := top.workspace } := by
    obtain ⟨htop, -, hs⟩ := sound_top hds ht
    exact ⟨htop, hs⟩
  have hfinal := (sound_steps hd .refl hs (steps_run hf)).1
  refine ⟨hfinal.workspace.arranged, rfl, fun s chain hc => ?_, fun s h hh => ?_⟩
  · induction hc with
    | root => rfl
    | cursor hb _ hspells hx ih =>
      obtain ⟨hsound, hg⟩ := sound_scopes hd htop hs hf hb
      rw [Graph.reach?_append, ih]
      exact Graph.reach?_of_extends hg (hsound.reach? hspells hx)
  · exact hfinal.attachments _ (hfinal.workspace.handlers s h hh)

end

end StreamSelect.Construction
