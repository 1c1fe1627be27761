import Mathlib.Data.List.Permutation
import StreamSelect.Proofs.Building.Nested
import StreamSelect.Proofs.Building.Workspace

-- `List.Permutation` has the equations of pairs that `cbv` evaluates the example below with.

/-! The attachments of a construction are work that grows while it is done. Handlers declare in the
order in which they were first attached, each once for each state, until nothing is left to do, one
of them fails, or the budget is spent. -/
namespace StreamSelect

section

variable {α : Type} [BEq α] [LawfulBEq α] {a : α} {xs ys : List α}

theorem eraseDups_concat_of_mem (h : a ∈ xs) : (xs ++ [a]).eraseDups = xs.eraseDups := by
  simp [List.eraseDups_append, List.removeAll, h]

theorem eraseDups_concat_of_not_mem (h : a ∉ xs) :
    (xs ++ [a]).eraseDups = xs.eraseDups ++ [a] := by
  simp [List.eraseDups_append, List.removeAll, h, List.eraseDups_cons]

theorem eraseDups_prefix (h : xs <+: ys) : xs.eraseDups <+: ys.eraseDups := by
  obtain ⟨new, rfl⟩ := h
  rw [List.eraseDups_append]
  exact List.prefix_append _ _

end

variable {B : Type}

/-- The attachments of a workspace in the order in which they were first made. -/
def Workspace.distinct [DecidableEq B] (w : Workspace B) : List (Attachment B) :=
  w.attachments.toList.eraseDups

namespace Construction

open Relation (ReflTransGen)

/-- The handlers of document declarations attached by handlers that declare in this order. -/
def observedBy (declared : B → Nat → List (Declaration B)) (builds : List (Attachment B)) : List B :=
  builds.zipIdx.flatMap fun build =>
    (declared build.1.handler.behaviour build.2).flatMap Declaration.observed

/-- A handler whose turn comes within the budget fails. -/
def Fails (declared : B → Nat → List (Declaration B)) (budget : Nat) (start : Construction B)
    (e : Error) : Prop :=
  ∃ c a, ReflTransGen (Step declared budget) start c ∧ c.Due budget a ∧
    (c.build declared a).failure = some e

variable {declared : B → Nat → List (Declaration B)} {budget : Nat} {c : Construction B}
  {a : Attachment B}

theorem take_next (hn : c.workspace.attachments[c.position]? = some a) :
    c.workspace.attachments.toList.take (c.position + 1) =
      c.workspace.attachments.toList.take c.position ++ [a] := by
  rw [List.take_add_one, Array.getElem?_toList, hn, Option.toList_some]

/-! A construction that has more to spend takes the same steps, and there is only one step it can
take. -/

theorem Step.mono {next : Construction B} {more : Nat} (hle : budget ≤ more)
    (h : Step declared budget c next) : Step declared more c next := by
  cases h with
  | skip hn hm => exact .skip hn hm
  | build hd hf =>
    exact .build ⟨hd.next, hd.unbuilt, Nat.lt_of_lt_of_le hd.affordable hle⟩ hf

theorem step_unique : Relator.RightUnique (Step declared budget) := by
  intro c x y hx hy
  cases hx with
  | skip hn hm =>
    cases hy with
    | skip _ _ => rfl
    | build hd _ =>
      obtain rfl := Option.some.inj (hn.symm.trans hd.next)
      exact absurd hm hd.unbuilt
  | build hd _ =>
    cases hy with
    | skip hn hm =>
      obtain rfl := Option.some.inj (hn.symm.trans hd.next)
      exact absurd hm hd.unbuilt
    | build hd' _ =>
      obtain rfl := Option.some.inj (hd.next.symm.trans hd'.next)
      rfl

theorem length_built_steps {later : Construction B}
    (hs : ReflTransGen (Step declared budget) c later) (hb : c.built.length ≤ budget) :
    later.built.length ≤ budget := by
  induction hs with
  | refl => exact hb
  | tail _ hstep ih =>
    cases hstep with
    | skip _ _ => exact ih
    | build hd _ => exact hd.affordable

theorem failure_steps {later : Construction B}
    (hs : ReflTransGen (Step declared budget) c later) (hf : c.failure = none) :
    later.failure = none := by
  induction hs with
  | refl => exact hf
  | tail _ hstep ih =>
    cases hstep with
    | skip _ _ => exact ih
    | build _ hf => exact hf

/-- A model comes of a construction that has nothing left to do. -/
theorem Ends.done_of_model {last r : Construction B} (h : Ends declared budget last r)
    {model : Model B} (hm : r.model = .ok model) :
    r = last ∧ last.workspace.attachments[last.position]? = none ∧
      model = ⟨last.workspace.graph, .root, last.workspace.observers.toList⟩ := by
  unfold Construction.model at hm
  split at hm
  · cases hm
  rename_i hf
  cases h with
  | done hn => exact ⟨rfl, hn, (Except.ok.inj hm).symm⟩
  | failed _ he => exact nomatch hf.symm.trans he
  | spent _ _ _ => exact nomatch hf

variable [DecidableEq B]

/-- What has been done is what was first attached. -/
structure Orderly (c : Construction B) : Prop where
  fit : c.workspace.Fit 0
  nodup : c.built.Nodup
  reports : c.reports.map (·.attachment) = c.built
  built : c.built.reverse = (c.workspace.attachments.toList.take c.position).eraseDups

namespace Orderly

theorem mem_built_iff (h : c.Orderly) :
    a ∈ c.built ↔ a ∈ c.workspace.attachments.toList.take c.position := by
  rw [← List.mem_reverse, h.built, List.mem_eraseDups]

theorem prefix_distinct (h : c.Orderly) : c.built.reverse <+: c.workspace.distinct := by
  rw [h.built]
  exact eraseDups_prefix (List.take_prefix _ _)

/-- At the end everything is done. -/
theorem eq_distinct (h : c.Orderly) (hn : c.workspace.attachments[c.position]? = none) :
    c.built.reverse = c.workspace.distinct := by
  have hsize : c.workspace.attachments.toList.length ≤ c.position := by simpa using hn
  rw [h.built, List.take_of_length_le hsize, Workspace.distinct]

theorem skip (h : c.Orderly) (hn : c.workspace.attachments[c.position]? = some a)
    (hm : a ∈ c.built) : Orderly { c with position := c.position + 1 } := by
  refine ⟨h.fit, h.nodup, h.reports, ?_⟩
  show c.built.reverse = (c.workspace.attachments.toList.take (c.position + 1)).eraseDups
  rw [take_next hn, eraseDups_concat_of_mem (h.mem_built_iff.1 hm)]
  exact h.built

theorem becomes_scope (h : c.Orderly) (declared : B → Nat → List (Declaration B))
    (hn : c.workspace.attachments[c.position]? = some a) :
    ∃ observed, (Builder.nested c.workspace a.state).Becomes 0 observed (c.scope declared a) ∧
      ((c.build declared a).failure = none → observed =
        (declared a.handler.behaviour c.built.length).flatMap Declaration.observed) := by
  have ha := h.fit.attachments a (Array.mem_of_getElem? hn)
  exact (Builder.Fit.nested h.fit ha).becomes_performAll fun _ _ _ _ _ _ => Nat.zero_le _

theorem build (h : c.Orderly) (hn : c.workspace.attachments[c.position]? = some a)
    (hm : a ∉ c.built) : (c.build declared a).Orderly := by
  obtain ⟨observed, hscope, -⟩ := h.becomes_scope declared hn
  obtain ⟨new, hnew⟩ : c.workspace.attachments.toList <+:
    (c.scope declared a).workspace.attachments.toList := hscope.attachments
  have hlt : c.position < c.workspace.attachments.toList.length :=
    (Array.getElem?_eq_some_iff.1 hn).1
  have htake : (c.scope declared a).workspace.attachments.toList.take (c.position + 1) =
      c.workspace.attachments.toList.take c.position ++ [a] := by
    rw [← hnew, List.take_append_of_le_length hlt, take_next hn]
  refine ⟨hscope.fit.workspace, List.nodup_cons.2 ⟨hm, h.nodup⟩, ?_, ?_⟩
  · show a :: c.reports.map (·.attachment) = a :: c.built
    rw [h.reports]
  · show (a :: c.built).reverse =
      ((c.scope declared a).workspace.attachments.toList.take (c.position + 1)).eraseDups
    rw [htake, eraseDups_concat_of_not_mem fun hin => hm (h.mem_built_iff.2 hin),
      List.reverse_cons, h.built]

end Orderly

/-! ### Constructions step by step -/

theorem Orderly.step {next : Construction B} (h : c.Orderly) (hs : Step declared budget c next) :
    next.Orderly ∧
      c.workspace.attachments.toList <+: next.workspace.attachments.toList := by
  cases hs with
  | skip hn hm => exact ⟨h.skip hn hm, List.prefix_rfl⟩
  | build hd hf =>
    obtain ⟨observed, hscope, -⟩ := h.becomes_scope declared hd.next
    exact ⟨h.build hd.next hd.unbuilt, hscope.attachments⟩

theorem Orderly.steps {later : Construction B} (h : c.Orderly)
    (hs : ReflTransGen (Step declared budget) c later) :
    later.Orderly ∧ c.workspace.attachments.toList <+: later.workspace.attachments.toList := by
  induction hs with
  | refl => exact ⟨h, List.prefix_rfl⟩
  | tail _ hstep ih =>
    obtain ⟨hnext, hpre⟩ := ih.1.step hstep
    exact ⟨hnext, ih.2.trans hpre⟩

/-- What the handlers that declared attached, behind what was attached before. -/
theorem observers_steps {later : Construction B} (h : c.Orderly) (hb : c.built = [])
    (hs : ReflTransGen (Step declared budget) c later) :
    later.workspace.observers.toList =
      c.workspace.observers.toList ++ observedBy declared later.built.reverse := by
  induction hs with
  | refl =>
    rw [hb]
    exact (List.append_nil _).symm
  | @tail later next hmore hstep ih =>
    cases hstep with
    | skip _ _ => exact ih
    | @build a hd hf =>
      obtain ⟨observed, hscope, hobserved⟩ := (h.steps hmore).1.becomes_scope declared hd.next
      have hnew : observedBy declared (later.build declared a).built.reverse =
          observedBy declared later.built.reverse ++ observed := by
        rw [built_build, List.reverse_cons, observedBy, List.zipIdx_append, List.flatMap_append,
          hobserved hf]
        simp [observedBy]
      rw [hnew, ← List.append_assoc, ← ih]
      exact hscope.observers

theorem failure_of_fails {e : Error} (h : Fails declared budget c e) :
    (c.run declared budget).failure = some e := by
  obtain ⟨last, a, hsteps, hd, hf⟩ := h
  rw [run_of_steps hsteps, run_of_due hd, hf]
  exact hf

/-- However a construction ends, what it has done is in order. -/
theorem Ends.orderly {last r : Construction B} (h : Ends declared budget last r)
    (ho : last.Orderly) (hb : last.built.length ≤ budget) : r.Orderly ∧ r.built.length ≤ budget := by
  cases h with
  | done _ => exact ⟨ho, hb⟩
  | failed hd _ => exact ⟨ho.build hd.next hd.unbuilt, hd.affordable⟩
  | spent _ _ _ => exact ⟨⟨ho.fit, ho.nodup, ho.reports, ho.built⟩, hb⟩

/-- When nothing is left to do, no construction with more to spend gets any further. -/
theorem Orderly.distinct_prefix_of_done {start last : Construction B} (ho : start.Orderly)
    (hsteps : ReflTransGen (Step declared budget) start last)
    (hn : last.workspace.attachments[last.position]? = none) {more : Nat}
    (hc : ReflTransGen (Step declared more) start c) :
    c.workspace.distinct <+: last.workspace.distinct := by
  have hboth : ∀ {n x}, n ≤ max more budget → ReflTransGen (Step declared n) start x →
      ReflTransGen (Step declared (max more budget)) start x :=
    fun hle h => ReflTransGen.mono (fun _ _ hs => hs.mono hle) _ _ h
  rcases (hboth (Nat.le_max_right _ _) hsteps).total_of_right_unique step_unique
    (hboth (Nat.le_max_left _ _) hc) with h | h
  · rcases h.cases_head with rfl | ⟨next, hs, -⟩
    · exact List.prefix_rfl
    · cases hs with
      | skip hs _ => exact nomatch hn.symm.trans hs
      | build hd _ => exact nomatch hn.symm.trans hd.next
  · exact eraseDups_prefix ((ho.steps hc).1.steps h).2

/-- The work that the budget does not allow is one attachment more than was done. -/
theorem Orderly.length_distinct_of_unbuilt (ho : c.Orderly)
    (hn : c.workspace.attachments[c.position]? = some a) (hm : a ∉ c.built) :
    c.built.length < c.workspace.distinct.length := by
  have hpre : c.built.reverse ++ [a] <+: c.workspace.distinct := by
    rw [ho.built, ← eraseDups_concat_of_not_mem fun hin => hm (ho.mem_built_iff.2 hin),
      ← take_next hn]
    exact eraseDups_prefix (List.take_prefix _ _)
  have hle := hpre.length_le
  rw [List.length_append, List.length_reverse] at hle
  exact hle

/-- Unless a handler fails, the budget is spent exactly if more distinct attachments come about than
it allows. -/
theorem Ends.spent_iff {start last r : Construction B} (h : Ends declared budget last r)
    (ho : start.Orderly) (hf : start.failure = none) (hb : start.built.length ≤ budget)
    (hsteps : ReflTransGen (Step declared budget) start last)
    (hgood : ∀ e, ¬ Fails declared budget start e) :
    r.failure = some (.configuration (.buildBudget budget)) ↔
      ∃ more c, ReflTransGen (Step declared more) start c ∧ budget < c.workspace.distinct.length := by
  obtain ⟨hlast, -⟩ := ho.steps hsteps
  cases h with
  | failed hd he => exact absurd ⟨last, _, hsteps, hd, he⟩ (hgood _)
  | done hn =>
    rw [failure_steps hsteps hf]
    refine ⟨nofun, fun ⟨more, c, hc, hlt⟩ => ?_⟩
    have hall : last.workspace.distinct.length ≤ budget := by
      rw [← hlast.eq_distinct hn, List.length_reverse]
      exact length_built_steps hsteps hb
    have hle := (ho.distinct_prefix_of_done hsteps hn hc).length_le
    omega
  | spent hn hm hle =>
    have hlt := hlast.length_distinct_of_unbuilt hn hm
    exact ⟨fun _ => ⟨budget, last, hsteps, by omega⟩, fun _ => rfl⟩

/-- What a construction on a workspace comes to that has `observers` for its handlers of document
declarations. -/
structure Settled (declared : B → Nat → List (Declaration B)) (budget : Nat) (w : Workspace B)
    (r : Construction B) : Prop where
  /-- Each handler that declared was called for it once for each state, in the order in which they
  were first attached. -/
  calls : r.reports.map (·.attachment) = r.built
  calls_le : r.built.length ≤ budget
  once : r.built.Nodup
  order : r.built.reverse <+: r.workspace.distinct
  /-- In a finished model all handlers of all states have declared. -/
  success : ∀ model, r.model = .ok model →
    r.built.reverse = r.workspace.distinct ∧
      (∀ s h, ⟨s, h⟩ ∈ r.built ↔ h ∈ (model.state s).handlers) ∧
        model.observers = w.observers.toList ++ observedBy declared r.built.reverse
  failed : ∀ e, Fails declared budget { workspace := w } e → r.failure = some e
  /-- The budget is what fails, and not a handler with the same error, if no handler fails and more
  attachments come about than the budget allows. -/
  spent : r.failure = some (.configuration (.buildBudget budget)) ∧
      ¬ Fails declared budget { workspace := w } (.configuration (.buildBudget budget)) ↔
    (∀ e, ¬ Fails declared budget { workspace := w } e) ∧
      ∃ more c, ReflTransGen (Step declared more) { workspace := w } c ∧
        budget < c.workspace.distinct.length
  /-- Nothing else keeps a model from being finished. -/
  finished : r.failure = none ↔
    (∀ e, ¬ Fails declared budget { workspace := w } e) ∧
      ∀ more c, ReflTransGen (Step declared more) { workspace := w } c →
        c.workspace.distinct.length ≤ budget

theorem settled_run {w : Workspace B} (hw : w.Fit 0) (declared : B → Nat → List (Declaration B))
    (budget : Nat) :
    Settled declared budget w (run declared budget { workspace := w }) := by
  have hstart : Orderly { workspace := w } := ⟨hw, List.nodup_nil, rfl, rfl⟩
  obtain ⟨last, hsteps, hends⟩ := ends_run declared budget { workspace := w }
  obtain ⟨hlast, -⟩ := hstart.steps hsteps
  have hbound := length_built_steps hsteps (Nat.zero_le budget)
  obtain ⟨horderly, hle⟩ := hends.orderly hlast hbound
  have hfailed : ∀ e, Fails declared budget { workspace := w } e →
      (run declared budget { workspace := w }).failure = some e := fun _ => failure_of_fails
  have hspent := hends.spent_iff hstart rfl (Nat.zero_le budget) hsteps
  generalize run declared budget { workspace := w } = r at *
  refine ⟨horderly.reports, hle, horderly.nodup, horderly.prefix_distinct, ?_, hfailed, ?_, ?_⟩
  · intro model hm
    obtain ⟨rfl, hn, rfl⟩ := hends.done_of_model hm
    have hall := hlast.eq_distinct hn
    refine ⟨hall, fun s h => ?_, observers_steps hstart rfl hsteps⟩
    rw [← List.mem_reverse, hall, Workspace.distinct, List.mem_eraseDups, Array.mem_toList_iff]
    exact (hlast.fit.handlers s h).symm
  · refine ⟨fun ⟨hr, hnot⟩ => ?_, fun ⟨hgood, hmore⟩ => ⟨(hspent hgood).2 hmore, hgood _⟩⟩
    have hgood : ∀ e, ¬ Fails declared budget { workspace := w } e := by
      intro e he
      have hsame := (hfailed e he).symm.trans hr
      exact hnot (Option.some.inj hsame ▸ he)
    exact ⟨hgood, (hspent hgood).1 hr⟩
  · constructor
    · intro hr
      have hgood : ∀ e, ¬ Fails declared budget { workspace := w } e :=
        fun e he => nomatch hr.symm.trans (hfailed e he)
      refine ⟨hgood, fun more c hc => Nat.le_of_not_lt fun hlt => ?_⟩
      exact nomatch hr.symm.trans ((hspent hgood).2 ⟨more, c, hc, hlt⟩)
    · intro ⟨hgood, hfew⟩
      cases hends with
      | done _ => exact failure_steps hsteps rfl
      | failed hd he => exact absurd ⟨last, _, hsteps, hd, he⟩ (hgood _)
      | spent _ _ _ =>
        obtain ⟨more, c, hc, hlt⟩ := (hspent hgood).1 rfl
        exact absurd (hfew more c hc) (Nat.not_le.2 hlt)

/-- Whatever is declared at top level, and whatever the handlers declare in turn, a model is
constructed with at most as many calls of handlers as the budget allows. -/
theorem settled_construct (n : Nat) (ds : List (Declaration B))
    (declared : B → Nat → List (Declaration B)) (settings : BuildSettings) :
    ((Builder.ofModel n).performEach ds).2.workspace.observers.toList =
        ds.flatMap Declaration.observed ∧
      Settled declared settings.maxHandlerBuilds ((Builder.ofModel n).performEach ds).2.workspace
        (((Builder.ofModel n).performEach ds).2.construct declared settings) := by
  have hfit : (Builder.ofModel n : Builder B).Fit 0 := Builder.fit_ofModel n (Nat.zero_le 1)
  have hpoints : ∀ d ∈ ds, d.PointsFrom n 0 := fun _ _ _ _ _ _ => Nat.zero_le _
  have htop := hfit.becomes_performEach hpoints
  refine ⟨?_, settled_run htop.fit.workspace declared settings.maxHandlerBuilds⟩
  rw [htop.observers]
  rfl

end Construction

/-! A handler shared by two states, and attached to one of them twice. It attaches a handler of its
own below each. -/

def sharedTop : List (Declaration Bool) :=
  [{ statement := .select none [.select (.child (.plain "a")) []] [.share true] },
    { statement := .select none [.select (.child (.plain "b")) []] [.share true] },
    { statement := .select none [.select (.child (.plain "a")) []] [.share true] },
    { statement := .observe false }]

def sharedBelow : Bool → Nat → List (Declaration Bool)
  | true, _ => [{ statement := .select none [.select (.child (.plain "c")) []] [.attach false] },
      { statement := .observe true }]
  | false, _ => []

def sharedModel : Construction Bool :=
  ((Builder.ofModel 0).performEach sharedTop).2.construct sharedBelow {}

/-- The shared handler declares once for each state, before the handlers that it attaches. -/
theorem settled_sharedModel :
    sharedModel.built.reverse = [⟨⟨2⟩, ⟨true, none⟩⟩, ⟨⟨3⟩, ⟨true, none⟩⟩, ⟨⟨4⟩, ⟨false, some 0⟩⟩,
        ⟨⟨5⟩, ⟨false, some 1⟩⟩] ∧
      (∀ s h, ⟨s, h⟩ ∈ sharedModel.built ↔ h ∈ (sharedModel.workspace.graph.state s).handlers) ∧
      sharedModel.workspace.observers.toList = [false, true, true] := by
  obtain ⟨-, hsettled⟩ := Construction.settled_construct 0 sharedTop sharedBelow {}
  have hfailure : sharedModel.failure = none := by cbv
  have hmodel : sharedModel.model = .ok
      ⟨sharedModel.workspace.graph, .root, sharedModel.workspace.observers.toList⟩ := by
    rw [Construction.model, hfailure]
  obtain ⟨-, hhandlers, hobservers⟩ := hsettled.success _ hmodel
  refine ⟨by cbv, hhandlers, ?_⟩
  exact hobservers.trans (by cbv)

/-- A handler that attaches a new handler below itself, and so on without end. -/
def endlessModel (budget : Nat) : Construction Unit :=
  ((Builder.ofModel 0).performEach
    [{ statement := .select none [.select .anyChild []] [.attach ()] }]).2.construct
    (fun _ _ => [{ statement := .select none [.select .anyChild []] [.attach ()] }])
    { maxHandlerBuilds := budget }

/-- It is called as often as the budget allows, and not once more. -/
example : (endlessModel 3).built.length = 3 ∧
    (endlessModel 3).failure = some (.configuration (.buildBudget 3)) := by
  constructor <;> cbv

end StreamSelect
