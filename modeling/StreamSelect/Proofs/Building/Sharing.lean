import Mathlib.Data.List.Infix
import StreamSelect.Proofs.Automaton.Likeness
import StreamSelect.Proofs.Building.History
import StreamSelect.Proofs.Building.Nested
import StreamSelect.Proofs.Building.Redeclaration
import StreamSelect.Proofs.Selection.Matching

/-! States are shared by prefixes. Without explicit transitions the automaton of a model is a trie of
the chains that were compiled: chains written alike lead to one state, all others to different ones,
and there is no state but those of the chains and of their beginnings. -/
namespace StreamSelect

open List (Forall₂)
open Construction (CompiledFor)

/-- All chains of some kind, each of them once, in whatever way it is written. -/
structure Chain.Lists (chains : List Chain) (P : Chain → Prop) : Prop where
  distinct : chains.Pairwise fun c d => ¬Forall₂ Hop.Same c d
  sound : ∀ c ∈ chains, P c
  complete : ∀ c, P c → ∃ d ∈ chains, Forall₂ Hop.Same c d

namespace Workspace

variable {B : Type} {n : Nat} {w : Workspace B} {scopes : List (Builder B)}

/-- A chain that begins a compiled one and is not empty. -/
def Begins (scopes : List (Builder B)) (c : Chain) : Prop :=
  c ≠ [] ∧ ∃ s chain, CompiledFor (· ∈ scopes) s chain ∧ c <+: chain

/-- The automaton of a model is the trie of the chains that its scopes have compiled. -/
structure IsTrie (w : Workspace B) (scopes : List (Builder B)) : Prop where
  /-- Two chains are compiled to one state exactly if they are equal step by step. -/
  shared : ∀ s s' chain chain', CompiledFor (· ∈ scopes) s chain →
    CompiledFor (· ∈ scopes) s' chain' → (s = s' ↔ Forall₂ Hop.Same chain chain')
  /-- Beside the sink and the root there is one state for each beginning of a compiled chain. -/
  listed : ∃ chains, Chain.Lists chains (Begins scopes)
  size_eq : ∀ chains, Chain.Lists chains (Begins scopes) → w.graph.size = 2 + chains.length

/-! ### Scopes without explicit transitions -/

/-- A workspace all of whose states were compiled by one of the scopes. -/
structure Covered (w : Workspace B) (scopes : List (Builder B)) : Prop where
  sound : w.Sound
  root : w.graph.Usable .root
  roots : ∀ b ∈ scopes, w.graph.Usable b.root
  states : ∀ s, w.graph.Usable s → ∃ chain, CompiledFor (· ∈ scopes) s chain

end Workspace

theorem Construction.CompiledFor.mono {B : Type} {P Q : Builder B → Prop} (hPQ : ∀ b, P b → Q b)
    {s : StateId} {chain : Chain} (h : CompiledFor P s chain) : CompiledFor Q s chain := by
  induction h with
  | root => exact .root
  | cursor hb _ hs hx ih => exact .cursor (hPQ _ hb) ih hs hx

namespace Builder

variable {B : Type} {b : Builder B}

theorem Cached.sound (h : b.Cached) (hw : b.workspace.Sound) (hr : b.graph.Usable b.root) :
    b.Sound where
  workspace := hw
  root := hr
  parent := h.ordered _ _ _
  compiled := h.compiled _ _ _
  bookmarks := h.bookmarks

end Builder

namespace Workspace.History

variable {B : Type} {n : Nat} {w : Workspace B} {scopes : List (Builder B)}

theorem covered (h : w.History n (·.isStepwise = true) scopes) : w.Covered scopes := by
  induction h with
  | ofModel =>
    have hsound := Builder.sound_ofModel (B := B) n
    refine ⟨hsound.workspace, hsound.root, fun b hb => ?_, fun s hs => ⟨[], ?_⟩⟩
    · rw [List.mem_singleton.1 hb]
      exact hsound.root
    · have hlt : s.index < 2 := of_decide_eq_true hs.2
      have hi : s.index = 1 := Nat.le_antisymm (Nat.le_of_lt_succ hlt) hs.1
      obtain rfl : s = .root := by
        cases s
        exact congrArg StateId.mk hi
      exact .root
  | @perform w scopes b d h hb hd ih =>
    have hcached := h.cached.2 b hb
    have hchanges := hcached.changes_perform d
    have hk := (hcached.sound ih.sound (ih.roots b hb)).keeps_perform hd
    generalize ({ b with workspace := w }.perform d).2 = later at hchanges hk ⊢
    have hroot : later.root = b.root := hk.extension.root
    have hmono : ∀ {s chain}, CompiledFor (· ∈ scopes) s chain →
        CompiledFor (· ∈ later :: scopes) s chain :=
      fun hc => hc.mono fun _ => List.mem_cons_of_mem _
    refine ⟨hk.sound.workspace, ih.root.mono hk.extension.graph, fun c hc => ?_, fun s hs => ?_⟩
    · rcases List.mem_cons.1 hc with rfl | hc
      · exact hk.sound.root
      · exact (ih.roots c hc).mono hk.extension.graph
    · rcases hcached.usable_of_changes hchanges hs with hs | ⟨cursor, hc⟩
      · obtain ⟨chain, hchain⟩ := ih.states s hs
        exact ⟨chain, hmono hchain⟩
      · obtain ⟨above, habove⟩ := ih.states b.root (ih.roots b hb)
        obtain ⟨chain, hchain⟩ := hk.sound.exists_spells (Builder.knows_of_compiled? hc)
        exact ⟨_, .cursor List.mem_cons_self (hroot ▸ hmono habove) hchain hc⟩
  | @nested w scopes a _ ha ih =>
    refine ⟨ih.sound, ih.root, fun c hc => ?_, fun s hs => ?_⟩
    · rcases List.mem_cons.1 hc with rfl | hc
      · exact ih.sound.attachments a ha
      · exact ih.roots c hc
    · obtain ⟨chain, hchain⟩ := ih.states s hs
      exact ⟨chain, hchain.mono fun _ => List.mem_cons_of_mem _⟩

/-- A compiled chain leads to its state. -/
theorem reach?_of_compiledFor (h : w.History n (·.isStepwise = true) scopes) {s : StateId}
    {chain : Chain} (hc : CompiledFor (· ∈ scopes) s chain) :
    w.graph.reach? .root chain = some s := by
  induction hc with
  | root => rfl
  | @cursor b cursor above chain s hb _ hs hx ih =>
    rw [Graph.reach?_append, ih]
    exact (h.cached.2 b hb).reach? (hs.onto w) hx

/-- Every state behind the root is led to by the beginning of a compiled chain. -/
theorem exists_begins (h : w.History n (·.isStepwise = true) scopes) {i : Nat} (h2 : 2 ≤ i)
    (hi : i < w.graph.size) :
    ∃ c, Begins scopes c ∧ w.graph.reach? .root c = some ⟨i⟩ := by
  obtain ⟨c, hc⟩ := h.covered.states ⟨i⟩ ⟨Nat.le_of_succ_le h2, decide_eq_true hi⟩
  have hreach := h.reach?_of_compiledFor hc
  refine ⟨c, ⟨?_, _, c, hc, List.prefix_rfl⟩, hreach⟩
  rintro rfl
  have hroot : 1 = i := congrArg StateId.index (Option.some.inj hreach)
  omega

section

variable (h : w.History n (·.isStepwise = true) scopes)
  (hsep : ∀ s chain, CompiledFor (· ∈ scopes) s chain → chain.Separated)

include h hsep

/-- The beginning of a compiled chain leads to a state behind the root. -/
theorem reach?_of_begins {c : Chain} (hc : Begins scopes c) :
    c.Separated ∧ ∃ s, w.graph.reach? .root c = some s ∧ 2 ≤ s.index ∧ s.index < w.graph.size := by
  obtain ⟨hne, s, _, hchain, more, rfl⟩ := hc
  have hcovered := h.covered
  obtain ⟨o, ha⟩ := hcovered.sound.arranged
  have hc := (hsep s _ hchain).of_append
  have hreach := h.reach?_of_compiledFor hchain
  rw [Graph.reach?_append] at hreach
  obtain ⟨t, ht, -⟩ := Option.bind_eq_some_iff.1 hreach
  have hu := ha.usable_of_reach? hcovered.root ht
  refine ⟨hc, t, ht, ?_, of_decide_eq_true hu.2⟩
  refine Nat.lt_of_le_of_ne hu.1 fun hi => hne ?_
  obtain rfl : .root = t := by
    cases t
    exact congrArg StateId.mk hi
  exact ha.eq_nil_of_reach?_root hc ht

/-- Beginnings that lead to one state are written alike. -/
theorem same_of_begins {c d : Chain} (hc : Begins scopes c) (hd : Begins scopes d)
    (hcd : w.graph.reach? .root c = w.graph.reach? .root d) : Forall₂ Hop.Same c d := by
  obtain ⟨o, ha⟩ := h.covered.sound.arranged
  obtain ⟨hcsep, s, hs, -⟩ := h.reach?_of_begins hsep hc
  exact ha.same_of_reach? hcsep (h.reach?_of_begins hsep hd).1 hs (hcd ▸ hs)

theorem exists_lists : ∃ chains, Chain.Lists chains (Begins scopes) := by
  choose! chain hbegins hreach using fun i (hi : 2 ≤ i ∧ i < w.graph.size) =>
    h.exists_begins hi.1 hi.2
  have hmem : ∀ i, i ∈ List.range' 2 (w.graph.size - 2) → 2 ≤ i ∧ i < w.graph.size := by
    intro i hi
    rw [List.mem_range'_1] at hi
    omega
  refine ⟨(List.range' 2 (w.graph.size - 2)).map chain, ?_, ?_, fun c hc => ?_⟩
  · refine List.pairwise_map.2 (List.Pairwise.imp_of_mem (fun {i j} hi hj hne hsame => hne ?_)
      List.nodup_range')
    have hij := w.graph.reach?_congr .root hsame
    rw [hreach i (hmem i hi), hreach j (hmem j hj)] at hij
    exact congrArg StateId.index (Option.some.inj hij)
  · intro c hc
    obtain ⟨i, hi, rfl⟩ := List.mem_map.1 hc
    exact hbegins i (hmem i hi)
  · obtain ⟨-, s, hs, h2, hlt⟩ := h.reach?_of_begins hsep hc
    have hs' := hreach s.index ⟨h2, hlt⟩
    refine ⟨chain s.index, List.mem_map_of_mem ?_,
      h.same_of_begins hsep hc (hbegins _ ⟨h2, hlt⟩) (hs.trans hs'.symm)⟩
    rw [List.mem_range'_1]
    omega

/-- A list of the beginnings is a list of the states behind the root. -/
theorem size_eq_of_lists {chains : List Chain} (hl : Chain.Lists chains (Begins scopes)) :
    w.graph.size = 2 + chains.length := by
  let index := fun c => ((w.graph.reach? .root c).getD .sink).index
  have hreach : ∀ c ∈ chains, w.graph.reach? .root c = some ⟨index c⟩ ∧ 2 ≤ index c ∧
      index c < w.graph.size := by
    intro c hc
    obtain ⟨-, s, hs, h2, hlt⟩ := h.reach?_of_begins hsep (hl.sound c hc)
    have hi : index c = s.index := by simp only [index, hs, Option.getD_some]
    rw [hi]
    exact ⟨hs, h2, hlt⟩
  have hnodup : (chains.map index).Nodup := by
    refine List.pairwise_map.2 (hl.distinct.imp_of_mem fun {c d} hc hd hne heq => hne ?_)
    refine h.same_of_begins hsep (hl.sound c hc) (hl.sound d hd) ?_
    rw [(hreach c hc).1, (hreach d hd).1, heq]
  have hstates : ∀ i, i ∈ chains.map index ↔ i ∈ List.range' 2 (w.graph.size - 2) := by
    intro i
    rw [List.mem_range'_1]
    constructor
    · intro hi
      obtain ⟨c, hc, rfl⟩ := List.mem_map.1 hi
      have hb := (hreach c hc).2
      omega
    · intro hi
      obtain ⟨c, hc, hs⟩ := h.exists_begins hi.1 (by omega)
      obtain ⟨d, hd, hsame⟩ := hl.complete c hc
      have hs' := (hreach d hd).1
      rw [← w.graph.reach?_congr .root hsame, hs] at hs'
      have hi : i = index d := congrArg StateId.index (Option.some.inj hs')
      exact List.mem_map.2 ⟨d, hd, hi.symm⟩
  have hperm := (List.perm_ext_iff_of_nodup hnodup List.nodup_range').2 hstates
  have hlength := hperm.length_eq
  rw [List.length_map, List.length_range'] at hlength
  have hroot : StateId.root.index < w.graph.size := of_decide_eq_true h.covered.root.2
  have h1 : StateId.root.index = 1 := rfl
  omega

/-- Without explicit transitions, and as long as no step to a child repeats the test of the
descendant above it, states are shared exactly by chains that are written alike. -/
theorem isTrie : w.IsTrie scopes where
  shared s s' chain chain' hc hc' := by
    obtain ⟨o, ha⟩ := h.covered.sound.arranged
    have hs := h.reach?_of_compiledFor hc
    have hs' := h.reach?_of_compiledFor hc'
    constructor
    · rintro rfl
      exact ha.same_of_reach? (hsep _ _ hc) (hsep _ _ hc') hs hs'
    · intro hsame
      rw [w.graph.reach?_congr .root hsame, hs'] at hs
      exact (Option.some.inj hs).symm
  listed := h.exists_lists hsep
  size_eq _ hl := h.size_eq_of_lists hsep hl

end

/-- Chains of states that all selectors agree with are the only ones compiled. -/
theorem eq_of_compiledFor (h : w.History n (·.isStepwise = true) scopes) {label : StateId → Chain}
    (hroot : label .root = [])
    (hlabel : ∀ b ∈ scopes, ∀ s ∈ b.selectors.toList, s.state.isSome = true →
      (b.compiled? s.parent).map (label · ++ [s.hop]) = s.state.map label)
    {s : StateId} {chain : Chain} (hc : CompiledFor (· ∈ scopes) s chain) : chain = label s := by
  induction hc with
  | root => exact hroot.symm
  | @cursor b cursor above chain s hb _ hspells hx ih =>
    rw [ih]
    induction hspells generalizing s with
    | root =>
      obtain rfl : b.root = s := Option.some.inj hx
      exact List.append_nil _
    | @step id selector chain hs _ ih =>
      rw [Builder.compiled?, hs] at hx
      obtain ⟨base, hbase, -⟩ := (h.cached.2 b hb).compiled id selector s hs hx
      have hmem : selector ∈ b.selectors.toList :=
        Array.mem_toList_iff.2 (Array.mem_of_getElem? hs)
      have hbase : b.compiled? selector.parent = some base := hbase
      have hstate : selector.state = some s := hx
      have hnext := hlabel b hb selector hmem (by rw [hstate]; rfl)
      rw [hbase, hstate] at hnext
      rw [← List.append_assoc, ih hbase]
      exact Option.some.inj hnext

end Workspace.History

/-! Sections at any depth. The handler of a section asks for the titles in it; the same titles are
then named from the top, in other words. -/

def sectionTop : Declaration Bool :=
  { statement := .select none [.select (.named (.plain "section")) []] [.attach true] }

def titleBelow : Declaration Bool :=
  { statement := .select none [.select (.child (.plain "title")) []] [.compile] }

def titleTop : Declaration Bool :=
  { statement := .select none [.select .descendant [.name (.plain "section")],
      .select .anyChild [.name (.plain "title")]] [.compile] }

def sectionScope : Builder Bool := ((Builder.ofModel 0).perform sectionTop).2

def belowSection : Builder Bool :=
  ((Builder.nested sectionScope.workspace ⟨2⟩).perform titleBelow).2

def titleTopScope : Builder Bool :=
  ({ sectionScope with workspace := belowSection.workspace }.perform titleTop).2

def titleScopes : List (Builder Bool) :=
  [titleTopScope, belowSection, .nested sectionScope.workspace ⟨2⟩, sectionScope, .ofModel 0]

theorem history_titleTop :
    titleTopScope.workspace.History 0 (·.isStepwise = true) titleScopes := by
  have hstart : Workspace.History 0 (·.isStepwise = true) _ [(Builder.ofModel 0 : Builder Bool)] :=
    .ofModel
  have htop := hstart.perform List.mem_cons_self (d := sectionTop) rfl
  have ha : (⟨⟨2⟩, ⟨true, some 0⟩⟩ : Attachment Bool) ∈ sectionScope.workspace.attachments :=
    Array.mem_of_getElem? (i := 0) (by cbv)
  have hbelow := (htop.nested ha).perform List.mem_cons_self (d := titleBelow) rfl
  have htitle := hbelow.perform (b := sectionScope)
    (List.mem_cons_of_mem _ (List.mem_cons_of_mem _ List.mem_cons_self)) (d := titleTop) rfl
  exact htitle

/-- The chains of the states, by their numbers. -/
def titleLabel (s : StateId) : Chain :=
  match s.index with
  | 2 => [⟨true, .name (.plain "section")⟩]
  | 3 => [⟨true, .name (.plain "section")⟩, ⟨false, .name (.plain "title")⟩]
  | _ => []

theorem label_title : ∀ b ∈ titleScopes, ∀ s ∈ b.selectors.toList, s.state.isSome = true →
    (b.compiled? s.parent).map (titleLabel · ++ [s.hop]) = s.state.map titleLabel := by
  have htop : titleTopScope.selectors.toList = [
      ⟨none, .named (.plain "section"), [], none, some ⟨2⟩⟩,
      ⟨none, .descendant, [.name (.plain "section")], none, some ⟨2⟩⟩,
      ⟨some ⟨1⟩, .anyChild, [.name (.plain "title")], none, some ⟨3⟩⟩] := by cbv
  have hbelow : belowSection.selectors.toList =
      [⟨none, .child (.plain "title"), [], none, some ⟨3⟩⟩] := by cbv
  have hsection : sectionScope.selectors.toList =
      [⟨none, .named (.plain "section"), [], none, some ⟨2⟩⟩] := by cbv
  have hnested : (Builder.nested sectionScope.workspace ⟨2⟩).selectors.toList = [] := rfl
  have hmodel : (Builder.ofModel 0 : Builder Bool).selectors.toList = [] := rfl
  simp only [titleScopes, List.forall_mem_cons, List.not_mem_nil, false_imp_iff, implies_true,
    and_true, true_and, htop, hbelow, hsection, hnested, hmodel]
  refine ⟨⟨fun _ => ?_, fun _ => ?_, fun _ => ?_⟩, fun _ => ?_, fun _ => ?_⟩
  all_goals cbv

theorem eq_label_of_compiledFor {s : StateId} {chain : Chain}
    (hc : CompiledFor (· ∈ titleScopes) s chain) : chain = titleLabel s ∧ chain <+: titleLabel ⟨3⟩ := by
  obtain rfl := history_titleTop.eq_of_compiledFor rfl label_title hc
  refine ⟨rfl, ?_⟩
  unfold titleLabel
  split
  · exact List.prefix_append _ _
  · exact List.prefix_rfl
  · exact List.nil_prefix

theorem lists_title :
    Chain.Lists [titleLabel ⟨2⟩, titleLabel ⟨3⟩] (Workspace.Begins titleScopes) := by
  have hsize : titleTopScope.graph.size = 4 := by cbv
  obtain ⟨chain, htitle⟩ := history_titleTop.covered.states ⟨3⟩
    ⟨by decide, by rw [Graph.contains]; exact decide_eq_true (hsize ▸ by decide)⟩
  obtain rfl := (eq_label_of_compiledFor htitle).1
  refine ⟨?_, fun c hc => ?_, ?_⟩
  · simp only [List.pairwise_cons, List.mem_singleton, forall_eq, List.not_mem_nil, false_imp_iff,
      implies_true, List.Pairwise.nil, and_true]
    exact fun h => absurd h.length_eq (by decide)
  · simp only [List.mem_cons, List.not_mem_nil, or_false] at hc
    rcases hc with rfl | rfl
    · exact ⟨List.cons_ne_nil _ _, _, _, htitle, List.prefix_append _ _⟩
    · exact ⟨List.cons_ne_nil _ _, _, _, htitle, List.prefix_rfl⟩
  · rintro c ⟨hne, s, chain, hchain, hbegins⟩
    have hc := List.mem_inits _ _ |>.2 (hbegins.trans (eq_label_of_compiledFor hchain).2)
    simp only [titleLabel, List.inits, List.map_cons, List.map_nil, List.mem_cons,
      List.not_mem_nil, or_false] at hc
    rcases hc with rfl | rfl | rfl
    · exact absurd rfl hne
    · exact ⟨_, List.mem_cons_self, List.forall₂_same.2 fun h _ => .refl h⟩
    · exact ⟨_, List.mem_cons_of_mem _ List.mem_cons_self, List.forall₂_same.2 fun h _ => .refl h⟩

/-- Three selectors and three compilations make two states beside the sink and the root. -/
theorem isTrie_title :
    titleTopScope.workspace.History 0 (·.isStepwise = true) titleScopes ∧
      (∀ s chain, CompiledFor (· ∈ titleScopes) s chain → chain.Separated) ∧
      titleTopScope.workspace.IsTrie titleScopes ∧ titleTopScope.graph.size = 2 + 2 := by
  have hsep : ∀ s chain, CompiledFor (· ∈ titleScopes) s chain → chain.Separated := by
    intro s chain hc
    obtain ⟨more, hmore⟩ := (eq_label_of_compiledFor hc).2
    have hpair : Chain.Separated (titleLabel ⟨3⟩) := Chain.separated_pair (by decide)
    exact (hmore ▸ hpair).of_append
  have htrie := history_titleTop.isTrie hsep
  exact ⟨history_titleTop, hsep, htrie, htrie.size_eq _ lists_title⟩

end StreamSelect
