import StreamSelect.Proofs.Building.Inlining

/-! Calls that are refused. A limit is looked at before anything is done, and one that is refused
leaves no trace. A transition to a point of another model is refused only when the selector it starts
from has its state; a selector without one is compiled for the refused transition. -/
namespace StreamSelect

variable {B : Type}

namespace Builder

variable {b last : Builder B} {cursor : Option SelectorId} {e : Error}

/-! ### Why calls are refused -/

theorem limit_eq_error_iff {n : Nat} : b.limit cursor n = .error e ↔
    n = 0 ∧ e = .configuration .zeroLimit ∨
      n ≠ 0 ∧ cursor = none ∧ b.root = .root ∧ e = .configuration .rootLimit := by
  unfold limit
  by_cases hn : n = 0
  · simp [hn, eq_comm]
  rw [if_neg hn]
  cases cursor with
  | none => by_cases hr : b.root = .root <;> simp [hn, hr, eq_comm]
  | some id =>
    dsimp only
    split <;> simp [hn]

theorem link_eq_error_iff {source : StateId} {test : Constraint} {point : AttachPoint} :
    b.link source test point = .error e ↔
      ¬(point.model = b.workspace.model ∧ b.graph.contains point.state = true) ∧
        e = .configuration (.foreignPoint point.state) := by
  by_cases hown : point.model = b.workspace.model ∧ b.graph.contains point.state = true
  · obtain ⟨records, hlinked⟩ := link_of_own (x := source) (t := test) hown
    rw [hlinked]
    exact ⟨nofun, fun h => absurd hown h.1⟩
  · rw [link, if_neg hown]
    exact ⟨fun h => ⟨hown, (Except.error.inj h).symm⟩, fun h => congrArg Except.error h.2.symm⟩

/-! ### What refused calls leave -/

/-- What a refused call leaves is what these actions leave: none at all, but for a transition from a
selector without a state. -/
def remnant (b : Builder B) (cursor : Option SelectorId) : Action B → List (Action B)
  | .link _ key =>
    if (b.landmark? key).isSome && (b.compiled? cursor).isNone then [.compile] else []
  | _ => []

theorem remnant_eq_nil {call : Action B}
    (h : ∀ test key, call = .link test key → (b.compiled? cursor).isSome = true) :
    b.remnant cursor call = [] := by
  cases call with
  | link test key =>
    have hnone : (b.compiled? cursor).isNone = false := by
      rw [Option.isNone_eq_false_iff]
      exact h test key rfl
    rw [remnant, hnone, Bool.and_false]
    rfl
  | _ => rfl

theorem act_link_of_refused {test : Constraint} {key : String}
    (h : (b.act cursor (.link test key)).1 = .error e) :
    (b.act cursor (.link test key)).2 = (b.actAll cursor (b.remnant cursor (.link test key))).2 := by
  rw [act] at h ⊢
  cases hpoint : b.landmark? key with
  | none =>
    rw [remnant, hpoint]
    rfl
  | some point =>
    have hleft : (b.stateOf cursor).2 =
        (b.actAll cursor (b.remnant cursor (.link test key))).2 := by
      rw [remnant, hpoint]
      cases hx : b.compiled? cursor with
      | none => rfl
      | some x =>
        rw [stateOf_of_compiled hx]
        rfl
    rw [hpoint] at h
    dsimp only at h ⊢
    cases hlink : (b.stateOf cursor).2.link (b.stateOf cursor).1 test point with
    | error e' => exact hleft
    | ok linked =>
      rw [hlink] at h
      cases h

theorem act_of_refused {call : Action B} (h : (b.act cursor call).1 = .error e) :
    (b.act cursor call).2 = (b.actAll cursor (b.remnant cursor call)).2 := by
  cases call with
  | compile | attach | share | mark | bookmark => cases h
  | inspect view => cases view <;> cases h
  | only n =>
    rw [act] at h ⊢
    cases hl : b.limit cursor n with
    | error e' => rfl
    | ok limited =>
      rw [hl] at h
      cases h
  | link test key => exact act_link_of_refused h
  | reject e => rfl

/-! ### Declarations that end in a refused call -/

theorem actAll_append {actions : List (Action B)} {answers : List Answer}
    (h : b.actAll cursor actions = ((answers, none), last)) (more : List (Action B)) :
    b.actAll cursor (actions ++ more) =
      ((answers ++ (last.actAll cursor more).1.1, (last.actAll cursor more).1.2),
        (last.actAll cursor more).2) := by
  induction actions generalizing b answers with
  | nil =>
    cases h
    rfl
  | cons action actions ih =>
    rw [List.cons_append]
    rw [actAll] at h ⊢
    generalize b.act cursor action = done at h ⊢
    obtain ⟨answer, later⟩ := done
    cases answer with
    | error e => cases h
    | ok answer =>
      dsimp only at h ⊢
      generalize hrest : later.actAll cursor actions = result at h
      obtain ⟨⟨rest, error⟩, later'⟩ := result
      cases h
      rw [ih hrest]
      rfl

/-- Where the action after a path and other actions is carried out, if these succeed. -/
def reached (b : Builder B) (origin : Option String) (path : List Step)
    (actions : List (Action B)) : Option (Option SelectorId × Builder B) :=
  match b.walk (b.start origin) path with
  | (.error _, _) => none
  | (.ok cursor, later) =>
    match later.actAll cursor actions with
    | ((_, none), last) => some (cursor, last)
    | ((_, some _), _) => none

theorem carryOut_of_reached {origin : Option String} {path : List Step}
    {actions : List (Action B)} (h : b.reached origin path actions = some (cursor, last))
    (more : List (Action B)) :
    (b.carryOut (.select origin path (actions ++ more))).1.2 = (last.actAll cursor more).1.2 ∧
      (b.carryOut (.select origin path (actions ++ more))).2 = (last.actAll cursor more).2 := by
  unfold reached at h
  rw [carryOut]
  generalize b.walk (b.start origin) path = walked at h ⊢
  obtain ⟨result, later⟩ := walked
  cases result with
  | error e => cases h
  | ok start =>
    dsimp only at h ⊢
    generalize hdone : later.actAll start actions = done at h
    obtain ⟨⟨answers, error⟩, later'⟩ := done
    cases error with
    | some e => cases h
    | none =>
      cases h
      rw [actAll_append hdone]
      exact ⟨rfl, rfl⟩

/-- A declaration that ends in a refused call fails, and leaves what it leaves with the remnant of the
call in its place. -/
theorem perform_of_refused {origin : Option String} {path : List Step} {actions : List (Action B)}
    {call : Action B} (h : b.reached origin path actions = some (cursor, last))
    (he : (last.act cursor call).1 = .error e) (optional : Bool) :
    (b.perform ⟨.select origin path (actions ++ [call]), optional⟩).1.error = some e ∧
      (b.perform ⟨.select origin path (actions ++ [call]), optional⟩).2 =
        (b.perform ⟨.select origin path (actions ++ last.remnant cursor call), optional⟩).2 := by
  have hcall : last.actAll cursor [call] = (([], some e), (last.act cursor call).2) := by
    rw [actAll]
    generalize last.act cursor call = done at he ⊢
    obtain ⟨answer, later⟩ := done
    cases he
    rfl
  obtain ⟨herror, hleft⟩ := carryOut_of_reached h [call]
  obtain ⟨-, hleft'⟩ := carryOut_of_reached h (last.remnant cursor call)
  rw [hcall] at herror hleft
  exact ⟨herror, hleft.trans ((act_of_refused he).trans hleft'.symm)⟩

/-! ### Lists of declarations -/

/-- Of a declaration only what it leaves matters to those that follow. -/
theorem performEach_congr {before after : List (Declaration B)} {d d' : Declaration B}
    (h : ((b.performEach before).2.perform d).2 = ((b.performEach before).2.perform d').2) :
    (b.performEach (before ++ d :: after)).2 = (b.performEach (before ++ d' :: after)).2 := by
  induction before generalizing b with
  | nil => exact congrArg (fun later => (later.performEach after).2) h
  | cons first before ih => exact ih h

theorem performAll_congr {before after : List (Declaration B)} {d d' : Declaration B}
    (hd : d.optional = true) (hd' : d'.optional = true)
    (h : ((b.performAll before).2.perform d).2 = ((b.performAll before).2.perform d').2) :
    (b.performAll (before ++ d :: after)).1.2 = (b.performAll (before ++ d' :: after)).1.2 ∧
      (b.performAll (before ++ d :: after)).2 = (b.performAll (before ++ d' :: after)).2 := by
  induction before generalizing b with
  | nil =>
    have hleft : (b.perform d).2 = (b.perform d').2 := h
    simp only [List.nil_append, performAll, hd, hd', Bool.not_true, Bool.and_false,
      Bool.false_eq_true, ↓reduceIte, hleft, and_self]
  | cons first before ih =>
    simp only [performAll, List.cons_append] at h ⊢
    split
    · exact ⟨rfl, rfl⟩
    · rename_i hgoes
      rw [if_neg hgoes] at h
      exact ih h

/-- What refused calls come to in a scope. -/
structure BearsRefusals [DecidableEq B] (b : Builder B) : Prop where
  /-- A limit is refused if it is zero, or meant for the root of the document. -/
  limits : ∀ cursor n e, b.limit cursor n = .error e ↔
    n = 0 ∧ e = .configuration .zeroLimit ∨
      n ≠ 0 ∧ cursor = none ∧ b.root = .root ∧ e = .configuration .rootLimit
  /-- A transition is refused if its point is none of this model. -/
  links : ∀ source test point e, b.link source test point = .error e ↔
    ¬(point.model = b.workspace.model ∧ b.graph.contains point.state = true) ∧
      e = .configuration (.foreignPoint point.state)
  /-- The scope stays as it was, unless it is a transition from a selector without a state. -/
  untouched : ∀ cursor call e, (b.act cursor call).1 = .error e →
    (∀ test key, call = .link test key → (b.compiled? cursor).isSome = true) →
    (b.act cursor call).2 = b ∧ b.remnant cursor call = []
  /-- Then the selector is compiled. -/
  remnants : ∀ cursor call e, (b.act cursor call).1 = .error e →
    (b.act cursor call).2 = (b.actAll cursor (b.remnant cursor call)).2
  /-- A limit that is refused on a path ends the path where it is. -/
  paths : ∀ cursor n e, b.limit cursor n = .error e →
    ∀ steps, b.walk cursor (.only n :: steps) = (.error e, b)
  /-- Those who go on after the error go on as without the call, or with the selector compiled in its
  place. -/
  ignored : ∀ origin path actions cursor last call e, ∀ before after : List (Declaration B),
    (b.performAll before).2.reached origin path actions = some (cursor, last) →
    (last.act cursor call).1 = .error e →
    (b.performAll (before ++ ⟨.select origin path (actions ++ [call]), true⟩ :: after)).1.2 =
        (b.performAll (before ++
          ⟨.select origin path (actions ++ last.remnant cursor call), true⟩ :: after)).1.2 ∧
      (b.performAll (before ++ ⟨.select origin path (actions ++ [call]), true⟩ :: after)).2 =
        (b.performAll (before ++
          ⟨.select origin path (actions ++ last.remnant cursor call), true⟩ :: after)).2
  /-- The model is the one without the call, or with the selector compiled in its place. -/
  models : ∀ origin path actions cursor last call e, ∀ before after : List (Declaration B),
    (b.performEach before).2.reached origin path actions = some (cursor, last) →
    (last.act cursor call).1 = .error e → ∀ optional declared settings,
    (b.performEach (before ++ ⟨.select origin path (actions ++ [call]), optional⟩ :: after)).2.construct
        declared settings =
      (b.performEach (before ++
        ⟨.select origin path (actions ++ last.remnant cursor call), optional⟩ :: after)).2.construct
        declared settings

end Builder

/-- Refused calls leave the automaton alone, but for a transition from a selector that has no state:
this selector is compiled. -/
theorem refused_calls [DecidableEq B] (b : Builder B) : b.BearsRefusals := by
  constructor
  · exact fun _ _ _ => Builder.limit_eq_error_iff
  · exact fun _ _ _ _ => Builder.link_eq_error_iff
  · intro cursor call e he hcompiled
    have hnil := Builder.remnant_eq_nil hcompiled
    refine ⟨?_, hnil⟩
    rw [Builder.act_of_refused he, hnil]
    rfl
  · exact fun _ _ _ => Builder.act_of_refused
  · intro cursor n e hl steps
    rw [Builder.walk, hl]
  · intro origin path actions cursor last call e before after h he
    exact Builder.performAll_congr rfl rfl (Builder.perform_of_refused h he true).2
  · intro origin path actions cursor last call e before after h he optional declared settings
    rw [Builder.performEach_congr (Builder.perform_of_refused h he optional).2]

/-! A handler for all elements, and a transition to a point that another model handed out. -/

def strayTop : List (Declaration Bool) :=
  [{ statement := .select none [.select .descendant []] [.attach true] },
    { statement := .landmark "stray" ⟨1, ⟨2⟩⟩ }]

def strayPath : List Step := [.select (.child (.plain "a")) []]

def strayCall : Action Bool := .link (.name (.plain "b")) "stray"

/-- The scope in which the transition is refused, with its selector declared and not compiled. -/
def strayScope : Builder Bool := (((Builder.ofModel 0).performEach strayTop).2.walk none strayPath).2

def noFilters : Filters := ⟨fun _ _ => false, fun _ _ _ => false⟩

/-- The model of these declarations and one more, whose handlers declare nothing. -/
def strayModel (actions : List (Action Bool)) : Construction Bool :=
  Construction.ofProgram 0 (strayTop ++ [⟨.select none strayPath actions, false⟩]) (fun _ _ => []) {}

/-- The refused transition adds a state to the automaton. With it a document element named `a` enters
that state and no handler is called; without it the element enters the state of the handler. -/
theorem grown_stray :
    ((Builder.ofModel 0).performEach strayTop).2.reached none strayPath [] =
        some (some ⟨1⟩, strayScope) ∧
      (strayScope.act (some ⟨1⟩) strayCall).1 = .error (.configuration (.foreignPoint ⟨2⟩)) ∧
      strayScope.graph.size = 3 ∧ (strayScope.act (some ⟨1⟩) strayCall).2.graph.size = 4 ∧
      (strayModel [strayCall]).failure = none ∧ (strayModel []).failure = none ∧
      (strayModel [strayCall]).workspace.graph.resolve noFilters .root [.root]
        (.ofName (.plain "a")) = ⟨3⟩ ∧
      ((strayModel [strayCall]).workspace.graph.state ⟨3⟩).handlers = [] ∧
      (strayModel []).workspace.graph.resolve noFilters .root [.root]
        (.ofName (.plain "a")) = ⟨2⟩ ∧
      ((strayModel []).workspace.graph.state ⟨2⟩).handlers = [⟨true, some 0⟩] :=
  ⟨by cbv, by cbv, by cbv, by cbv, by cbv, by cbv, by cbv, by cbv, by cbv, by cbv⟩

/-- From a selector that has its state the transition is refused without a trace. -/
theorem refused_stray :
    (((Builder.ofModel 0).performEach strayTop).2.reached none strayPath [.compile]).isSome = true ∧
      strayModel [.compile, strayCall] = strayModel [.compile] := by
  have hreached : ((Builder.ofModel 0).performEach strayTop).2.reached none strayPath [.compile] =
      some (some ⟨1⟩, (strayScope.stateOf (some ⟨1⟩)).2) := by cbv
  have hrefused : ((strayScope.stateOf (some ⟨1⟩)).2.act (some ⟨1⟩) strayCall).1 =
      .error (.configuration (.foreignPoint ⟨2⟩)) := by cbv
  have hnil : (strayScope.stateOf (some ⟨1⟩)).2.remnant (some ⟨1⟩) strayCall = [] := by decide +kernel
  have hsame := (refused_calls (Builder.ofModel 0)).models _ _ _ _ _ _ _ strayTop [] hreached
    hrefused false (fun _ _ => []) {}
  rw [hnil] at hsame
  exact ⟨by rw [hreached]; rfl, hsame⟩

end StreamSelect
