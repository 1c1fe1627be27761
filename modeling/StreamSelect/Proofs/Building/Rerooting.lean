import StreamSelect.Proofs.Automaton.Likeness
import StreamSelect.Proofs.Building.Memory

/-! Scopes laid out flat. A builder of a whole model carries out what a nested scope declares when
every chain that starts at the root of the scope starts at a cursor of the builder instead. It holds
each selector of the scope, compiled to the same state if the scope compiled it, and maybe others. -/
namespace StreamSelect

open List (Forall₂)

variable {B : Type}

/-- A builder that keeps the cursor of every attachment. -/
structure FlatBuilder (B : Type) where
  builder : Builder B
  /-- In the order of attachment. -/
  sites : List (Option SelectorId) := []

namespace FlatBuilder

/-- Where a chain starts when the root of its scope is moved to `base`. -/
def start (f : FlatBuilder B) (base : Option SelectorId) (origin : Option String) :
    Option SelectorId :=
  (f.builder.start origin).or base

def actAll (f : FlatBuilder B) (cursor : Option SelectorId) (actions : List (Action B)) :
    Option Error × FlatBuilder B :=
  let ((_, error), b) := f.builder.actAll cursor actions
  let attached := b.workspace.attachments.size - f.builder.workspace.attachments.size
  (error, { builder := b, sites := f.sites ++ List.replicate attached cursor })

/-- Carries out one declaration with the root moved to `base`. -/
def perform (f : FlatBuilder B) (base : Option SelectorId) (d : Declaration B) :
    Option Error × FlatBuilder B :=
  match d.statement with
  | .select origin path actions =>
    match f.builder.walk (f.start base origin) path with
    | (.error e, b) => (some e, { f with builder := b })
    | (.ok cursor, b) => { f with builder := b }.actAll cursor actions
  | .observe behaviour => (none, { f with builder := f.builder.observe behaviour })
  | .landmark key point => (none, { f with builder := f.builder.mark key point })
  | .inspect _ => (none, f)

/-- Carries out declarations, each whatever became of the one before. -/
def performEach (f : FlatBuilder B) (base : Option SelectorId) :
    List (Declaration B) → FlatBuilder B
  | [] => f
  | d :: ds => (f.perform base d).2.performEach base ds

/-- Carries out declarations up to the first that fails and is not optional. -/
def performAll (f : FlatBuilder B) (base : Option SelectorId) :
    List (Declaration B) → Option Error × FlatBuilder B
  | [] => (none, f)
  | d :: ds =>
    match f.perform base d with
    | (error, f) => if error.isSome && !d.optional then (error, f) else f.performAll base ds

/-- A declaration that starts at the same cursor is carried out as by any builder. -/
theorem builder_perform_select (f : FlatBuilder B) {base : Option SelectorId}
    {origin kept : Option String} (path : List Step) (actions : List (Action B)) (optional : Bool)
    (hs : f.start base origin = f.builder.start kept) :
    (f.perform base ⟨.select origin path actions, optional⟩).2.builder =
      (f.builder.perform ⟨.select kept path actions, optional⟩).2 := by
  show _ = (f.builder.carryOut (.select kept path actions)).2
  simp only [perform, hs, Builder.carryOut]
  generalize f.builder.walk (f.builder.start kept) path = walked
  obtain ⟨reached, b⟩ := walked
  cases reached with
  | error e => rfl
  | ok cursor => rfl

/-- With the root where it is, nothing changes. -/
theorem builder_perform_none (f : FlatBuilder B) (d : Declaration B) :
    (f.perform none d).2.builder = (f.builder.perform d).2 := by
  obtain ⟨statement, optional⟩ := d
  cases statement with
  | select origin path actions => exact f.builder_perform_select _ _ _ Option.or_none
  | observe behaviour => rfl
  | landmark key point => rfl
  | inspect view => rfl

theorem builder_performEach_none (f : FlatBuilder B) (ds : List (Declaration B)) :
    (f.performEach none ds).builder = (f.builder.performEach ds).2 := by
  induction ds generalizing f with
  | nil => rfl
  | cons d ds ih =>
    rw [performEach, ih, builder_perform_none]
    rfl

/-- Attachments were made to the states of their cursors. -/
def Placed (f : FlatBuilder B) : Prop :=
  Forall₂ (fun a site => f.builder.compiled? site = some a.state)
    f.builder.workspace.attachments.toList f.sites

theorem Placed.mono {f : FlatBuilder B} (h : f.Placed) {later : Builder B}
    (hg : f.builder.Grows later)
    (ha : later.workspace.attachments = f.builder.workspace.attachments) :
    ({ f with builder := later } : FlatBuilder B).Placed := by
  unfold Placed
  rw [ha]
  exact h.imp fun _ _ => hg.compiled?

theorem Placed.actAll {f : FlatBuilder B} (h : f.Placed) {cursor : Option SelectorId}
    {actions : List (Action B)}
    (hk : f.builder.Acts cursor (f.builder.actAll cursor actions).2) :
    (f.actAll cursor actions).2.Placed := by
  obtain ⟨new, hnew, hcursor⟩ := hk.attached
  have hsize : (f.builder.actAll cursor actions).2.workspace.attachments.size -
      f.builder.workspace.attachments.size = new.length := by
    rw [← Array.length_toList, ← Array.length_toList, hnew, List.length_append,
      Nat.add_sub_cancel_left]
  have hold := h.imp fun _ _ => hk.grows.compiled?
  show Forall₂ _ (f.builder.actAll cursor actions).2.workspace.attachments.toList
    (f.sites ++ List.replicate _ cursor)
  rw [hnew, hsize, ← List.map_const']
  refine List.rel_append hold ?_
  rw [List.forall₂_map_right_iff, List.forall₂_same]
  exact hcursor

end FlatBuilder

/-- Workspaces that are alike but for their records. -/
structure Workspace.Alike (w v : Workspace B) : Prop where
  model : w.model = v.model
  graph : w.graph.Alike v.graph
  attachments : w.attachments = v.attachments
  observers : w.observers = v.observers
  landmarks : w.landmarks = v.landmarks
  copies : w.copies = v.copies

namespace Builder

variable {k : Option SelectorId} {n f n' f' : Builder B}

/-! ### Selectors of a scope in a flat builder -/

/-- A cursor of a scope and the cursor that has its steps below `k`. -/
inductive Seated (k : Option SelectorId) (n f : Builder B) :
    Option SelectorId → Option SelectorId → Prop
  | root : Seated k n f none k
  | step {id seat : SelectorId} {s t : Selector} :
    n.selector? id = some s → f.selector? seat = some t → Seated k n f s.parent t.parent →
      s.Like t → Seated k n f (some id) (some seat)

namespace Seated

variable {cursor seat : Option SelectorId}

theorem unique (hf : f.Memoized) (h : Seated k n f cursor seat) {other : Option SelectorId}
    (ho : Seated k n f cursor other) : seat = other := by
  induction h generalizing other with
  | root =>
    cases ho
    rfl
  | @step id i s t hs ht _ hlike ih =>
    cases ho with
    | @step _ j s' t' hs' ht' hparent hlike' =>
      obtain rfl : s = s' := Option.some.inj (hs.symm.trans hs')
      exact congrArg some (hf.distinct i j t t' ht ht' (ih hparent) (hlike.symm.trans hlike'))

theorem mono (hn : n.Grows n') (hf : f.Grows f') (h : Seated k n f cursor seat) :
    Seated k n' f' cursor seat := by
  induction h with
  | root => exact .root
  | @step id i s t hs ht _ hlike ih =>
    obtain ⟨s', hs', hsp, hsk, hsc, -⟩ := hn.selector hs
    obtain ⟨t', ht', htp, htk, htc, -⟩ := hf.selector ht
    refine .step hs' ht' ?_ ⟨?_, ?_⟩
    · rw [hsp, htp]
      exact ih
    · rw [hsk, htk]
      exact hlike.kind
    · rw [hsc, htc]
      exact hlike.constraints

theorem knows (h : Seated k n f cursor seat) : n.Knows cursor := by
  intro id hid
  cases h with
  | root => cases hid
  | step hs _ _ _ =>
    cases hid
    exact ⟨_, hs⟩

theorem knows_seat (hk : f.Knows k) (h : Seated k n f cursor seat) : f.Knows seat := by
  intro id hid
  cases h with
  | root => exact hk id hid
  | step _ ht _ _ =>
    cases hid
    exact ⟨_, ht⟩

/-- Only the root is seated at the root. -/
theorem or_base (h : Seated k n f cursor seat) : seat.or k = seat := by
  cases h with
  | root => exact Option.or_self
  | step _ _ _ _ => rfl

end Seated

/-- Bookmarks of the same keys, at the seats of their cursors. -/
def Booked (k : Option SelectorId) (n f : Builder B) (xs ys : List (String × Option SelectorId)) :
    Prop :=
  Forall₂ (fun x y => x.1 = y.1 ∧ Seated k n f x.2 y.2) xs ys

theorem Booked.mono {xs ys : List (String × Option SelectorId)} (hn : n.Grows n')
    (hf : f.Grows f') (h : Booked k n f xs ys) : Booked k n' f' xs ys :=
  h.imp fun _ _ hxy => ⟨hxy.1, hxy.2.mono hn hf⟩

theorem Booked.lookup {xs ys : List (String × Option SelectorId)} (h : Booked k n f xs ys)
    (key : String) : Option.Rel (Seated k n f) (xs.lookup key) (ys.lookup key) := by
  induction h with
  | nil => exact .none
  | cons hxy _ ih =>
    obtain ⟨hkey, hs⟩ := hxy
    rw [List.lookup_cons, List.lookup_cons, ← hkey]
    split
    · exact .some hs
    · exact ih

/-- A scope, and a builder that carries out what the scope declares below the cursor `k`. -/
structure Mirrors (k : Option SelectorId) (n f : Builder B) : Prop where
  nested : n.Memoized
  flat : f.Memoized
  workspace : n.workspace.Alike f.workspace
  seats : ∀ cursor, n.Knows cursor → ∃ seat, Seated k n f cursor seat ∧
    ∀ x, n.compiled? cursor = some x → f.compiled? seat = some x
  bookmarks : Booked k n f n.bookmarks f.bookmarks

namespace Mirrors

variable {cursor seat : Option SelectorId}

theorem compiled (h : Mirrors k n f) (hs : Seated k n f cursor seat) {x : StateId}
    (hx : n.compiled? cursor = some x) : f.compiled? seat = some x := by
  obtain ⟨other, ho, hcompiled⟩ := h.seats cursor hs.knows
  rw [hs.unique h.flat ho]
  exact hcompiled x hx

theorem base (h : Mirrors k n f) : f.compiled? k = some n.root := h.compiled .root rfl

theorem knows_seat (h : Mirrors k n f) (hs : Seated k n f cursor seat) : f.Knows seat :=
  hs.knows_seat (knows_of_compiled? h.base)

/-- Selectors may be added, and compiled, in both. -/
theorem of_grows (h : Mirrors k n f) (hn : n'.Memoized) (hf : f'.Memoized) (hgn : n.Grows n')
    (hgf : f.Grows f') (hw : n'.workspace.Alike f'.workspace)
    (hknows : ∀ cursor, n'.Knows cursor → n.Knows cursor ∨ ∃ seat, Seated k n' f' cursor seat)
    (hcompiled : ∀ cursor x, n'.compiled? cursor = some x → n.compiled? cursor = some x ∨
      ∃ seat, Seated k n' f' cursor seat ∧ f'.compiled? seat = some x)
    (hb : Booked k n' f' n'.bookmarks f'.bookmarks) :
    Mirrors k n' f' := by
  refine ⟨hn, hf, hw, fun cursor hc => ?_, hb⟩
  obtain ⟨seat, hs⟩ : ∃ seat, Seated k n' f' cursor seat := by
    rcases hknows cursor hc with hc | hseat
    · obtain ⟨seat, hs, -⟩ := h.seats cursor hc
      exact ⟨seat, hs.mono hgn hgf⟩
    · exact hseat
  refine ⟨seat, hs, fun x hx => ?_⟩
  rcases hcompiled cursor x hx with hx | ⟨other, ho, hx⟩
  · obtain ⟨other, ho, hcompiled⟩ := h.seats cursor (knows_of_compiled? hx)
    rw [hs.unique hf (ho.mono hgn hgf)]
    exact hgf.compiled? (hcompiled x hx)
  · rw [hs.unique hf ho]
    exact hx

/-- Selectors stay as they are in both. -/
theorem of_becomes (h : Mirrors k n f) {xs ys : List B} (hn : n.Becomes 0 xs n')
    (hf : f.Becomes 0 ys f') (hw : n'.workspace.Alike f'.workspace) (hr : n'.root = n.root)
    (hs : n'.selectors = n.selectors) (hr' : f'.root = f.root) (hs' : f'.selectors = f.selectors)
    (hb : Booked k n f n'.bookmarks f'.bookmarks) :
    Mirrors k n' f' := by
  have hgn : n.Grows n' := .of_same hn.graph hr hs
  have hgf : f.Grows f' := .of_same hf.graph hr' hs'
  have hsel : n'.selector? = n.selector? := by
    funext id
    simp only [selector?, hs]
  apply h.of_grows (h.nested.of_fit hn.fit hn.graph hr hs) (h.flat.of_fit hf.fit hf.graph hr' hs')
    hgn hgf hw
  · intro c hc
    unfold Knows at hc ⊢
    rw [hsel] at hc
    exact .inl hc
  · intro c x hx
    cases c with
    | none =>
      rw [compiled?, hr] at hx
      exact .inl hx
    | some id =>
      rw [compiled?, hsel] at hx
      exact .inl hx
  · exact hb.mono hgn hgf

/-! ### Compilation -/

theorem compile (h : Mirrors k n f) {id seat : SelectorId} {s t : Selector} {base : StateId}
    (hs : n.selector? id = some s) (ht : f.selector? seat = some t)
    (hparent : Seated k n f s.parent t.parent) (hlike : s.Like t)
    (hb : n.compiled? s.parent = some base) :
    (n.compile base id).1 = (f.compile base seat).1 ∧
      Mirrors k (n.compile base id).2 (f.compile base seat).2 := by
  obtain ⟨hn, hgn, -⟩ := h.nested.compile hs hb
  obtain ⟨hf, hgf, hx⟩ := h.flat.compile ht (h.compiled hparent hb)
  obtain ⟨hstate, hgraph⟩ := h.workspace.graph.extend base hlike.hop
  have hstate : (n.graph.extend base s.hop).1 = (f.graph.extend base t.hop).1 := hstate
  rw [compile_of_unlimited hs (h.nested.unlimited id s hs)] at hn hgn ⊢
  rw [compile_of_unlimited ht (h.flat.unlimited seat t ht)] at hf hgf hx ⊢
  have hseat := (Seated.step hs ht hparent hlike).mono hgn hgf
  refine ⟨hstate, h.of_grows hn hf hgn hgf ?_ ?_ ?_ ?_⟩
  · exact { h.workspace with graph := hgraph }
  · intro c hc
    left
    intro other hother
    obtain ⟨u, hu⟩ := hc other hother
    obtain ⟨old, hold, -⟩ := exists_of_selector?_compiledTo hu
    exact ⟨old, hold⟩
  · intro c x hx'
    cases c with
    | none => exact .inl hx'
    | some other =>
      obtain ⟨u, hu, hux⟩ := Option.bind_eq_some_iff.1 hx'
      obtain ⟨old, hold, ⟨-, rfl⟩ | ⟨rfl, rfl⟩⟩ := exists_of_selector?_compiledTo hu
      · exact .inl (Option.bind_eq_some_iff.2 ⟨u, hold, hux⟩)
      · refine .inr ⟨some seat, hseat, ?_⟩
        rw [hx, ← hstate]
        exact hux
  · exact h.bookmarks.mono hgn hgf

theorem stateOf (h : Mirrors k n f) (hs : Seated k n f cursor seat) :
    (n.stateOf cursor).1 = (f.stateOf seat).1 ∧
      Mirrors k (n.stateOf cursor).2 (f.stateOf seat).2 := by
  induction hs with
  | root =>
    rw [stateOf_none, stateOf_of_compiled h.base]
    exact ⟨rfl, h⟩
  | @step id seat s t hs ht hparent hlike ih =>
    -- one of the two may have compiled the step before, which makes no difference
    rw [h.nested.stateOf_eq hs, h.flat.stateOf_eq ht]
    obtain ⟨-, hgn, hx⟩ := h.nested.stateOf (h.nested.ordered.knows_parent hs)
    obtain ⟨-, hgf, -⟩ := h.flat.stateOf (h.flat.ordered.knows_parent ht)
    obtain ⟨hbase, hm⟩ := ih
    rw [← hbase]
    generalize n.stateOf s.parent = reached at hgn hx hbase hm ⊢
    generalize f.stateOf t.parent = reached' at hgf hbase hm ⊢
    obtain ⟨s', hs', hsp, -⟩ := hgn.selector hs
    have hseat := (Seated.step hs ht hparent hlike).mono hgn hgf
    cases hseat with
    | @step _ _ u v hu hv hparent hlike =>
      obtain rfl : u = s' := Option.some.inj (hu.symm.trans hs')
      rw [← hsp] at hx
      exact hm.compile hu hv hparent hlike hx

/-! ### Declaring steps -/

theorem declare (h : Mirrors k n f) (hs : Seated k n f cursor seat) (kind : SelectorKind)
    (constraints : List Constraint) :
    Mirrors k (n.declare cursor kind constraints).2 (f.declare seat kind constraints).2 ∧
      Seated k (n.declare cursor kind constraints).2 (f.declare seat kind constraints).2
        (some (n.declare cursor kind constraints).1) (some (f.declare seat kind constraints).1) := by
  obtain ⟨hn, hgn, s, hsel, hparent, hlike⟩ := h.nested.declare hs.knows kind constraints
  obtain ⟨hf, hgf, t, hsel', hparent', hlike'⟩ := h.flat.declare (h.knows_seat hs) kind constraints
  have hlike : s.Like t := ⟨BEq.trans hlike.kind (BEq.symm hlike'.kind),
    BEq.trans hlike.constraints (BEq.symm hlike'.constraints)⟩
  have hparents : Seated k (n.declare cursor kind constraints).2
      (f.declare seat kind constraints).2 s.parent t.parent := by
    rw [hparent, hparent']
    exact hs.mono hgn hgf
  have hseat := Seated.step hsel hsel' hparents hlike
  refine ⟨h.of_grows hn hf hgn hgf ?_ ?_ ?_ ?_, hseat⟩
  · rw [workspace_declare, workspace_declare]
    exact h.workspace
  · intro c hc
    rcases knows_of_declare hc with hc | rfl
    · exact .inl hc
    · exact .inr ⟨_, hseat⟩
  · intro c x hx
    exact .inl (compiled?_of_declare hx)
  · rw [bookmarks_declare, bookmarks_declare]
    exact h.bookmarks.mono hgn hgf

/-- Without limits a path is declared to its end. -/
theorem walk (h : Mirrors k n f) (hs : Seated k n f cursor seat) {path : List Step}
    (hp : path.all Step.isUnlimited = true) :
    ∃ reached reached' n' f', n.walk cursor path = (.ok reached, n') ∧
      f.walk seat path = (.ok reached', f') ∧ Mirrors k n' f' ∧ Seated k n' f' reached reached' ∧
      f.Grows f' ∧ f'.workspace = f.workspace := by
  induction path generalizing n f cursor seat with
  | nil => exact ⟨cursor, seat, n, f, rfl, rfl, h, hs, .refl f, rfl⟩
  | cons step path ih =>
    rw [List.all_cons, Bool.and_eq_true] at hp
    cases step with
    | only limit => cases hp.1
    | select kind constraints =>
      obtain ⟨hm, hseat⟩ := h.declare hs kind constraints
      obtain ⟨-, hgf, -⟩ := h.flat.declare (h.knows_seat hs) kind constraints
      obtain ⟨reached, reached', n', f', hn, hf, hm, hs, hg, hw⟩ := ih hm hseat hp.2
      refine ⟨reached, reached', n', f', hn, hf, hm, hs, hgf.trans hg, hw.trans ?_⟩
      exact workspace_declare f seat kind constraints

/-! ### Handlers and explicit transitions -/

theorem freshCopy (h : Mirrors k n f) (behaviour : B) :
    (n.freshCopy behaviour).1 = (f.freshCopy behaviour).1 ∧
      Mirrors k (n.freshCopy behaviour).2 (f.freshCopy behaviour).2 := by
  have hn : n.Becomes 0 [] (n.freshCopy behaviour).2 :=
    h.nested.fit.becomes_of_same rfl rfl rfl rfl rfl rfl h.nested.fit.selectors
  have hf : f.Becomes 0 [] (f.freshCopy behaviour).2 :=
    h.flat.fit.becomes_of_same rfl rfl rfl rfl rfl rfl h.flat.fit.selectors
  constructor
  · exact congrArg (fun copies => HandlerRef.mk behaviour (some copies)) h.workspace.copies
  · refine h.of_becomes hn hf ?_ rfl rfl rfl rfl h.bookmarks
    exact { h.workspace with copies := congrArg (· + 1) h.workspace.copies }

theorem attach (h : Mirrors k n f) (hs : Seated k n f cursor seat) {x : StateId}
    (hx : n.compiled? cursor = some x) (handler : HandlerRef B) :
    Mirrors k (n.attach x handler) (f.attach x handler) := by
  have hn := h.nested.fit.becomes_attach (h.nested.within hx) handler
  have hf := h.flat.fit.becomes_attach (h.flat.within (h.compiled hs hx)) handler
  refine h.of_becomes hn hf ?_ rfl rfl rfl rfl h.bookmarks
  refine { h.workspace with graph := h.workspace.graph.attach x handler, attachments := ?_ }
  exact congrArg (fun attachments => attachments.push ⟨x, handler⟩) h.workspace.attachments

theorem mark (h : Mirrors k n f) (key : String) (point : AttachPoint) :
    Mirrors k (n.mark key point) (f.mark key point) := by
  have hn : n.Becomes 0 [] (n.mark key point) :=
    h.nested.fit.becomes_mark key fun _ => Nat.zero_le _
  have hf : f.Becomes 0 [] (f.mark key point) :=
    h.flat.fit.becomes_mark key fun _ => Nat.zero_le _
  refine h.of_becomes hn hf ?_ rfl rfl rfl rfl h.bookmarks
  exact { h.workspace with landmarks := congrArg (List.cons (key, point)) h.workspace.landmarks }

theorem observe (h : Mirrors k n f) (behaviour : B) :
    Mirrors k (n.observe behaviour) (f.observe behaviour) := by
  have hn := h.nested.fit.becomes_perform (d := { statement := .observe behaviour }) nofun
  have hf := h.flat.fit.becomes_perform (d := { statement := .observe behaviour }) nofun
  refine h.of_becomes hn hf ?_ rfl rfl rfl rfl h.bookmarks
  refine { h.workspace with observers := ?_ }
  exact congrArg (fun observers => observers.push behaviour) h.workspace.observers

/-- A transition is refused by both, or keeps one target in both. -/
theorem link (h : Mirrors k n f) (hs : Seated k n f cursor seat) {x : StateId}
    (hx : n.compiled? cursor = some x) (test : Constraint) (target : AttachPoint) :
    (∃ e, n.link x test target = .error e ∧ f.link x test target = .error e) ∨
      ∃ n' f', n.link x test target = .ok n' ∧ f.link x test target = .ok f' ∧ Mirrors k n' f' := by
  have hgraph := h.workspace.graph
  have hown : (target.model = n.workspace.model ∧ n.graph.contains target.state = true) ↔
      (target.model = f.workspace.model ∧ f.graph.contains target.state = true) := by
    have hcontains : n.graph.contains target.state = f.graph.contains target.state :=
      hgraph.contains_eq target.state
    rw [h.workspace.model, hcontains]
  by_cases ho : target.model = n.workspace.model ∧ n.graph.contains target.state = true
  · obtain ⟨rs, hn⟩ := link_of_own (x := x) (t := test) ho
    obtain ⟨rs', hf⟩ := link_of_own (x := x) (t := test) (hown.1 ho)
    refine .inr ⟨_, _, hn, hf, ?_⟩
    have hx' := h.flat.within (h.compiled hs hx)
    have hn := h.nested.fit.becomes_link (h.nested.within hx) (fun _ => Nat.zero_le _) hn
    have hf := h.flat.fit.becomes_link hx' (fun _ => Nat.zero_le _) hf
    refine h.of_becomes hn hf ?_ rfl rfl rfl rfl h.bookmarks
    exact { h.workspace with graph := (hgraph.link x (BEq.refl test) target.state).2 }
  · exact .inl ⟨_, if_neg ho, if_neg fun hof => ho (hown.2 hof)⟩

/-! ### Actions -/

/-- The state of a cursor and what it is compiled to, in both. -/
theorem stateOf_spec (h : Mirrors k n f) (hs : Seated k n f cursor seat) :
    ∃ x, (n.stateOf cursor).1 = x ∧ (f.stateOf seat).1 = x ∧
      (n.stateOf cursor).2.compiled? cursor = some x ∧
      Seated k (n.stateOf cursor).2 (f.stateOf seat).2 cursor seat ∧
      Mirrors k (n.stateOf cursor).2 (f.stateOf seat).2 := by
  obtain ⟨hstate, hm⟩ := h.stateOf hs
  obtain ⟨-, hgn, hx⟩ := h.nested.stateOf hs.knows
  obtain ⟨-, hgf, -⟩ := h.flat.stateOf (h.knows_seat hs)
  exact ⟨_, rfl, hstate.symm, hx, hs.mono hgn hgf, hm⟩

theorem act (h : Mirrors k n f) (hs : Seated k n f cursor seat) {action : Action B}
    (ha : action.isUnlimited = true) :
    Mirrors k (n.act cursor action).2 (f.act seat action).2 ∧
      ((∃ x y, (n.act cursor action).1 = .ok x ∧ (f.act seat action).1 = .ok y) ∨
        ∃ e, (n.act cursor action).1 = .error e ∧ (f.act seat action).1 = .error e) := by
  obtain ⟨x, hn, hf, hx, hseat, hm⟩ := h.stateOf_spec hs
  cases action with
  | compile => exact ⟨hm, .inl ⟨_, _, rfl, rfl⟩⟩
  | inspect view => cases view <;> exact ⟨h, .inl ⟨_, _, rfl, rfl⟩⟩
  | only limit => cases ha
  | attach behaviour =>
    obtain ⟨hhandler, hcopy⟩ := h.freshCopy behaviour
    have hgn : n.Grows (n.freshCopy behaviour).2 := .of_same (.refl n.graph) rfl rfl
    have hgf : f.Grows (f.freshCopy behaviour).2 := .of_same (.refl f.graph) rfl rfl
    obtain ⟨x, hn, hf, hx, hseat, hm⟩ := hcopy.stateOf_spec (hs.mono hgn hgf)
    simp only [Builder.act]
    rw [hn, hf, ← hhandler]
    exact ⟨hm.attach hseat hx _, .inl ⟨_, _, rfl, rfl⟩⟩
  | share behaviour =>
    simp only [Builder.act]
    rw [hn, hf]
    exact ⟨hm.attach hseat hx _, .inl ⟨_, _, rfl, rfl⟩⟩
  | mark key =>
    simp only [Builder.act, attachPoint]
    rw [hn, hf, hm.workspace.model]
    exact ⟨hm.mark key _, .inl ⟨_, _, rfl, rfl⟩⟩
  | link test key =>
    have hlandmark : n.landmark? key = f.landmark? key :=
      congrArg (List.lookup key) h.workspace.landmarks
    simp only [Builder.act, ← hlandmark]
    cases n.landmark? key with
    | none => exact ⟨h, .inr ⟨_, rfl, rfl⟩⟩
    | some target =>
      dsimp only
      rw [hn, hf]
      obtain ⟨e, hn, hf⟩ | ⟨n', f', hn, hf, hlinked⟩ := hm.link hseat hx test target
      · rw [hn, hf]
        exact ⟨hm, .inr ⟨e, rfl, rfl⟩⟩
      · rw [hn, hf]
        exact ⟨hlinked, .inl ⟨_, _, rfl, rfl⟩⟩
  | bookmark key =>
    refine ⟨?_, .inl ⟨_, _, rfl, rfl⟩⟩
    have hn : n.Becomes 0 [] { n with bookmarks := (key, cursor) :: n.bookmarks } :=
      h.nested.fit.becomes_of_same rfl rfl rfl rfl rfl rfl h.nested.fit.selectors
    have hf : f.Becomes 0 [] { f with bookmarks := (key, seat) :: f.bookmarks } :=
      h.flat.fit.becomes_of_same rfl rfl rfl rfl rfl rfl h.flat.fit.selectors
    exact h.of_becomes hn hf h.workspace rfl rfl rfl rfl (.cons ⟨rfl, hs⟩ h.bookmarks)
  | reject e => exact ⟨h, .inr ⟨e, rfl, rfl⟩⟩

theorem actAll (h : Mirrors k n f) (hs : Seated k n f cursor seat) {actions : List (Action B)}
    (ha : actions.all Action.isUnlimited = true) :
    Mirrors k (n.actAll cursor actions).2 (f.actAll seat actions).2 ∧
      (n.actAll cursor actions).1.2 = (f.actAll seat actions).1.2 := by
  induction actions generalizing n f with
  | nil => exact ⟨h, rfl⟩
  | cons action actions ih =>
    rw [List.all_cons, Bool.and_eq_true] at ha
    have hn := h.nested.acts_act hs.knows ha.1
    have hf := h.flat.acts_act (h.knows_seat hs) ha.1
    obtain ⟨hm, hanswers⟩ := h.act hs ha.1
    simp only [Builder.actAll]
    generalize n.act cursor action = done at hn hm hanswers ⊢
    generalize f.act seat action = done' at hf hm hanswers ⊢
    obtain ⟨answer, n'⟩ := done
    obtain ⟨answer', f'⟩ := done'
    rcases hanswers with ⟨x, y, rfl, rfl⟩ | ⟨e, rfl, rfl⟩
    · exact ih hm (hs.mono hn.grows hf.grows) ha.2
    · exact ⟨hm, rfl⟩

/-! ### Declarations -/

variable {F : FlatBuilder B}

/-- A chain starts at the seat of where it starts in the scope. -/
theorem start (h : Mirrors k n F.builder) (origin : Option String) :
    Seated k n F.builder (n.start origin) (F.start k origin) := by
  rw [FlatBuilder.start]
  cases origin with
  | none => exact .root
  | some key =>
    have hl := h.bookmarks.lookup key
    rw [Builder.start, Builder.start]
    generalize n.bookmarks.lookup key = cursor at hl ⊢
    generalize F.builder.bookmarks.lookup key = seat at hl ⊢
    cases hl with
    | none => exact .root
    | some hs =>
      dsimp only
      rw [hs.or_base]
      exact hs

/-- What a declaration leaves in a scope and in the builder. -/
structure After (k : Option SelectorId) (n : Builder B) (F later : FlatBuilder B) : Prop where
  mirrors : Mirrors k n later.builder
  placed : later.Placed
  grows : F.builder.Grows later.builder

theorem perform (h : Mirrors k n F.builder) (hp : F.Placed) {d : Declaration B}
    (hd : d.isUnlimited = true) :
    After k (n.perform d).2 F (F.perform k d).2 ∧ (n.perform d).1.error = (F.perform k d).1 := by
  obtain ⟨statement, optional⟩ := d
  show After k (n.carryOut statement).2 _ _ ∧ (n.carryOut statement).1.2 = _
  cases statement with
  | select origin path actions =>
    obtain ⟨hpath, hactions⟩ := Bool.and_eq_true_iff.1 hd
    obtain ⟨reached, reached', n', f', hn, hf, hm, hs, hg, hw⟩ := h.walk (h.start origin) hpath
    simp only [Builder.carryOut, FlatBuilder.perform]
    rw [hn, hf]
    obtain ⟨hacted, herror⟩ := hm.actAll hs hactions
    have hacts := hm.flat.acts_actAll (hm.knows_seat hs) hactions
    have hwalked := hp.mono hg (congrArg Workspace.attachments hw)
    exact ⟨⟨hacted, hwalked.actAll hacts, hg.trans hacts.grows⟩, herror⟩
  | observe behaviour => exact ⟨⟨h.observe behaviour, hp, .of_same (.refl _) rfl rfl⟩, rfl⟩
  | landmark key point => exact ⟨⟨h.mark key point, hp, .of_same (.refl _) rfl rfl⟩, rfl⟩
  | inspect view => exact ⟨⟨h, hp, .refl _⟩, rfl⟩

theorem performEach (h : Mirrors k n F.builder) (hp : F.Placed) {ds : List (Declaration B)}
    (hd : ∀ d ∈ ds, d.isUnlimited = true) :
    After k (n.performEach ds).2 F (F.performEach k ds) := by
  induction ds generalizing n F with
  | nil => exact ⟨h, hp, .refl _⟩
  | cons d ds ih =>
    obtain ⟨hk, -⟩ := h.perform hp (hd d List.mem_cons_self)
    have hrest := ih hk.mirrors hk.placed fun d hm => hd d (List.mem_cons_of_mem _ hm)
    exact ⟨hrest.mirrors, hrest.placed, hk.grows.trans hrest.grows⟩

theorem performAll (h : Mirrors k n F.builder) (hp : F.Placed) {ds : List (Declaration B)}
    (hd : ∀ d ∈ ds, d.isUnlimited = true) :
    After k (n.performAll ds).2 F (F.performAll k ds).2 ∧
      (n.performAll ds).1.2 = (F.performAll k ds).1 := by
  induction ds generalizing n F with
  | nil => exact ⟨⟨h, hp, .refl _⟩, rfl⟩
  | cons d ds ih =>
    obtain ⟨hk, herror⟩ := h.perform hp (hd d List.mem_cons_self)
    simp only [Builder.performAll, FlatBuilder.performAll]
    generalize n.perform d = done at hk herror ⊢
    generalize F.perform k d = done' at hk herror ⊢
    obtain ⟨outcome, n'⟩ := done
    obtain ⟨error, F'⟩ := done'
    obtain rfl : outcome.error = error := herror
    dsimp only
    split
    · exact ⟨hk, rfl⟩
    · obtain ⟨hrest, herror⟩ := ih hk.mirrors hk.placed fun d hm => hd d (List.mem_cons_of_mem _ hm)
      exact ⟨⟨hrest.mirrors, hrest.placed, hk.grows.trans hrest.grows⟩, herror⟩

end Mirrors
end Builder
end StreamSelect
