import Mathlib.Data.List.Permutation
import StreamSelect.Proofs.Building.Nested
import StreamSelect.Proofs.Selection.Grounding

-- `List.Permutation` has the equations of pairs that `cbv` evaluates the example below with.

/-! Soundness of selection. In a model built without explicit transitions an element enters a state
only if the chains that the state was compiled for describe the element. -/
namespace StreamSelect

open Construction (CompiledFor Scopes)

/-- In every run every open element is described by the separated chains its state was compiled for,
and a state with handlers was compiled for a chain. Filters of values may not look at how a name is
qualified. -/
theorem Machine.matches_of_compiledFor {B D : Type} [DecidableEq B] {m : Machine B D} {n : Nat}
    {ds : List (Declaration B)} {declared : B → Nat → List (Declaration B)}
    {settings : BuildSettings} (hds : ∀ d ∈ ds, d.isStepwise = true)
    (hd : ∀ b k, ∀ d ∈ declared b k, d.isStepwise = true)
    (hm : (((Builder.ofModel n).performEach ds).2.construct declared settings).model = .ok m.model)
    (hf : m.filters.IgnoreQualifiers) (events : List Event) (d : D) {f : Frame} {outer : List Frame}
    (ho : f :: outer <:+ (m.play events {} d).run.frames) :
    (∀ chain, CompiledFor (Scopes declared settings.maxHandlerBuilds
        ((Builder.ofModel n).performEach ds).2) f.state chain →
      chain.Separated → chain.Matches m.filters (Frame.path (f :: outer))) ∧
    ∀ h ∈ (m.state f.state).handlers, ∃ chain, CompiledFor (Scopes declared
      settings.maxHandlerBuilds ((Builder.ofModel n).performEach ds).2) f.state chain := by
  obtain ⟨⟨o, ha⟩, hroot, hreach, hhandlers⟩ :=
    Construction.reach?_of_compiledFor hds hd rfl hm
  refine ⟨fun chain hc hsep => ?_, hhandlers f.state⟩
  have hg := (m.groundedAll_play ha hroot events d).suffix ho
  exact m.matches_of_reach? ha hroot hf hsep hg (hreach f.state chain hc)

/-! A model of one handler on the descendants named `section` that declares another one on their
children named `title`. -/

def sectionDeclarations : List (Declaration Bool) :=
  [{ statement := .select none [.select (.named (.plain "section")) []] [.attach false] }]

def titleDeclarations (b : Bool) (_ : Nat) : List (Declaration Bool) :=
  if b then []
  else [{ statement := .select none [.select (.child (.plain "title")) []] [.attach true] }]

def sectionBuilder : Builder Bool := ((Builder.ofModel 0).performEach sectionDeclarations).2

def sectionConstruction : Construction Bool := sectionBuilder.construct titleDeclarations {}

def sectionMachine : Machine Bool Unit where
  model := ⟨sectionConstruction.workspace.graph, .root, []⟩
  behaviours := ⟨fun _ => {}, fun _ => {}⟩
  filters := ⟨fun _ _ => false, fun _ _ _ => false⟩

def sectionPath : List StartElement :=
  ["book", "section", "title"].map fun n => .ofName (.plain n)

def sectionChain : Chain :=
  [⟨true, .name (.plain "section")⟩, ⟨false, .name (.plain "title")⟩]

theorem compiledFor_section :
    CompiledFor (Scopes titleDeclarations 10000 sectionBuilder) ⟨2⟩
      [⟨true, .name (.plain "section")⟩] := by
  have hs : sectionBuilder.selector? ⟨0⟩ =
      some ⟨none, .named (.plain "section"), [], none, some ⟨2⟩⟩ := by cbv
  have hc : sectionBuilder.compiled? (some ⟨0⟩) = some ⟨2⟩ := by cbv
  have hr : sectionBuilder.root = .root := by cbv
  have habove : CompiledFor (Scopes titleDeclarations 10000 sectionBuilder) sectionBuilder.root
      [] := hr ▸ .root
  have hsection := CompiledFor.cursor .top habove (.step hs .root) hc
  exact hsection

theorem compiledFor_title :
    CompiledFor (Scopes titleDeclarations 10000 sectionBuilder) ⟨3⟩ sectionChain := by
  let start : Construction Bool := { workspace := sectionBuilder.workspace }
  let a : Attachment Bool := ⟨⟨2⟩, ⟨false, some 0⟩⟩
  have hdue : start.Due 10000 a := ⟨by cbv, List.not_mem_nil, by decide⟩
  have hs : (start.scope titleDeclarations a).selector? ⟨0⟩ =
      some ⟨none, .child (.plain "title"), [], none, some ⟨3⟩⟩ := by cbv
  have hc : (start.scope titleDeclarations a).compiled? (some ⟨0⟩) = some ⟨3⟩ := by cbv
  have hr : (start.scope titleDeclarations a).root = ⟨2⟩ := by cbv
  have habove := hr ▸ compiledFor_section
  have htitle := CompiledFor.cursor (.nested .refl hdue) habove (.step hs .root) hc
  exact htitle

theorem matches_section_title :
    (∀ d ∈ sectionDeclarations, d.isStepwise = true) ∧
      (∀ b k, ∀ d ∈ titleDeclarations b k, d.isStepwise = true) ∧
      sectionConstruction.model = .ok sectionMachine.model ∧
      sectionMachine.filters.IgnoreQualifiers ∧
      (sectionMachine.play (sectionPath.map .startElement) {} ()).run.frames.map (·.state) =
        [⟨3⟩, ⟨2⟩, .sink] ∧
      sectionChain.Matches sectionMachine.filters sectionPath := by
  have hds : ∀ d ∈ sectionDeclarations, d.isStepwise = true := by decide
  have hd : ∀ b k, ∀ d ∈ titleDeclarations b k, d.isStepwise = true := by
    intro b k d hm
    cases b with
    | false => exact List.mem_singleton.1 hm ▸ rfl
    | true => cases hm
  have hm : sectionConstruction.model = .ok sectionMachine.model := by cbv
  have hf : sectionMachine.filters.IgnoreQualifiers := fun _ _ _ _ _ => rfl
  have hstates : (sectionMachine.play (sectionPath.map .startElement) {} ()).run.frames.map
      (·.state) = [⟨3⟩, ⟨2⟩, .sink] := by cbv
  have hpath : Frame.path (sectionMachine.play (sectionPath.map .startElement) {} ()).run.frames =
      sectionPath := by cbv
  have hsep : sectionChain.Separated := Chain.separated_pair (by decide)
  refine ⟨hds, hd, hm, hf, hstates, ?_⟩
  cases hframes : (sectionMachine.play (sectionPath.map .startElement) {} ()).run.frames with
  | nil =>
    rw [hframes] at hstates
    cases hstates
  | cons f outer =>
    rw [hframes] at hstates hpath
    have hstate : f.state = ⟨3⟩ := List.head_eq_of_cons_eq hstates
    have hopen : f :: outer <:+
        (sectionMachine.play (sectionPath.map .startElement) {} ()).run.frames :=
      hframes ▸ List.suffix_rfl
    have hsound := Machine.matches_of_compiledFor hds hd hm hf (sectionPath.map .startElement) ()
      hopen
    rw [← hpath]
    exact hsound.1 sectionChain (hstate ▸ compiledFor_title) hsep

end StreamSelect
