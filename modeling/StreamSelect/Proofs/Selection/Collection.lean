import Mathlib.Data.List.Induction
import StreamSelect.Listing
import StreamSelect.Proofs.Building.ChildScope
import StreamSelect.Proofs.Document.Starts
import StreamSelect.Proofs.Selection.Children

/-! Lists that are collected. A handler at a path of names has the children of a name collected: what
a mapping makes of them, for the last element at the path. Nothing else in a document matters, but an
item that the mapping refuses ends the run. -/
namespace StreamSelect

namespace Collector

variable {I : Type} {map : StartElement → Except String I} {item : Name} {c c' : Collector I}

/-- What the handlers of lists and of their items do. -/
abbrev behaviours (map : StartElement → Except String I) : Behaviours ListRole (Collector I) :=
  ListRole.behaviours (consumer map)

/-- The starts of lists, each followed by those of its items. -/
def startsOf (item : Name) (lists : List (StartElement × List Content)) :
    List (ListRole × StartElement) :=
  lists.flatMap (tellList item (.list item) .item)

theorem react_item_of_ok {e : StartElement} {value : I} (h : map e = .ok value) :
    (behaviours map).react .item (.opened e) c = { data := ⟨c.items.push value⟩ } := by
  show (consumer map).itemStart e c = _
  simp only [consumer, h]

theorem react_item_of_error {e : StartElement} {message : String} (h : map e = .error message) :
    (behaviours map).react .item (.opened e) c = { data := c, failure := some message } := by
  show (consumer map).itemStart e c = _
  simp only [consumer, h]

/-- Items that are collected are mapped one by one. -/
theorem of_starts_items {items : List StartElement}
    (h : (behaviours map).starts (items.map (.item, ·)) c = ⟨c', none⟩) :
    ∃ values, items.map map = values.map .ok ∧ c'.items.toList = c.items.toList ++ values := by
  induction items generalizing c with
  | nil =>
    have hsame : c = c' := congrArg Reaction.data h
    exact ⟨[], rfl, by rw [hsame, List.append_nil]⟩
  | cons e items ih =>
    cases hmap : map e with
    | error message =>
      unfold Behaviours.starts at h
      rw [List.map_cons, List.map_cons, Reaction.sequence_cons, react_item_of_error hmap] at h
      cases h
    | ok value =>
      rw [List.map_cons, Behaviours.starts_cons _ (react_item_of_ok hmap)] at h
      obtain ⟨values, hvalues, hitems⟩ := ih h
      refine ⟨value :: values, ?_, ?_⟩
      · rw [List.map_cons, List.map_cons, hmap, hvalues]
      · rw [hitems, Array.toList_push, List.append_assoc]
        rfl

/-- A list that opens forgets the items of the one before. -/
theorem of_starts_list {l : StartElement} {items : List StartElement}
    (h : (behaviours map).starts ((.list item, l) :: items.map (.item, ·)) c = ⟨c', none⟩) :
    items.map map = c'.items.toList.map .ok := by
  have hlist : (behaviours map).react (.list item) (.opened l) c = { data := {} } := rfl
  rw [Behaviours.starts_cons _ hlist] at h
  obtain ⟨values, hvalues, hitems⟩ := of_starts_items h
  rw [hitems, hvalues]
  rfl

/-- All items of all lists are mapped, and those of the last one are kept. -/
theorem of_starts {lists : List (StartElement × List Content)}
    (h : (behaviours map).starts (startsOf item lists) c = ⟨c', none⟩) :
    (∀ l ∈ lists, ∀ e ∈ Content.elementsNamed item l.2, ∃ value, map e = .ok value) ∧
      (lists = [] → c' = c) ∧ ∀ before l, lists = before ++ [l] →
        (Content.elementsNamed item l.2).map map = c'.items.toList.map .ok := by
  induction lists using List.reverseRecOn generalizing c' with
  | nil =>
    refine ⟨nofun, fun _ => (congrArg Reaction.data h).symm, fun before l hl => ?_⟩
    simp at hl
  | append_singleton lists l ih =>
    rw [startsOf, List.flatMap_append, List.flatMap_singleton] at h
    obtain ⟨between, hbefore, hlast⟩ := Behaviours.exists_of_starts_append _ h
    have hvalues := of_starts_list hlast
    obtain ⟨hmapped, -, -⟩ := ih hbefore
    refine ⟨fun l' hl' e he => ?_, fun hnil => by simp at hnil, fun before l' hl' => ?_⟩
    · rcases List.mem_append.1 hl' with hl' | hl'
      · exact hmapped l' hl' e he
      · rw [List.mem_singleton.1 hl'] at he
        have hmem : map e ∈ c'.items.toList.map .ok := hvalues ▸ List.mem_map_of_mem he
        obtain ⟨value, -, hvalue⟩ := List.mem_map.1 hmem
        exact ⟨value, hvalue.symm⟩
    · obtain ⟨-, hsame⟩ := List.append_inj' hl' rfl
      rw [← List.singleton_inj.1 hsame]
      exact hvalues

/-- The start of an item lies behind the starts of its list and of the items before it. -/
theorem exists_of_startsOf {lists : List (StartElement × List Content)} {e : StartElement}
    {before after : List (ListRole × StartElement)}
    (h : startsOf item lists = before ++ (.item, e) :: after) :
    ∃ earlier l later items rest, lists = earlier ++ l :: later ∧
      Content.elementsNamed item l.2 = items ++ e :: rest ∧
      before = startsOf item earlier ++ (.list item, l.1) :: items.map (.item, ·) := by
  induction lists generalizing before with
  | nil => simp [startsOf] at h
  | cons l lists ih =>
    -- the start is that of an item of this list, or lies behind the list
    have hcases : (∃ before', startsOf item lists = before' ++ (.item, e) :: after ∧
          before = tellList item (.list item) .item l ++ before') ∨
        ∃ items rest, Content.elementsNamed item l.2 = items ++ e :: rest ∧
          before = (.list item, l.1) :: items.map (.item, ·) := by
      rw [startsOf, List.flatMap_cons, List.append_eq_append_iff] at h
      rcases h with ⟨before', hbefore, hrest⟩ | ⟨mine, hl, hrest⟩
      · exact .inl ⟨before', hrest, hbefore⟩
      cases mine with
      | nil =>
        rw [List.append_nil] at hl
        exact .inl ⟨[], hrest.symm, by rw [hl, List.append_nil]⟩
      | cons first mine =>
        obtain ⟨rfl, -⟩ := List.cons.inj hrest
        cases before with
        | nil =>
          have hhead := (List.cons.inj hl).1
          cases hhead
        | cons head before =>
          obtain ⟨rfl, hitems⟩ := List.cons.inj hl
          obtain ⟨items, rest, hsplit, rfl, hlater⟩ := List.map_eq_append_iff.1 hitems
          obtain ⟨e', rest, rfl, he, -⟩ := List.map_eq_cons_iff.1 hlater
          obtain rfl : e' = e := congrArg Prod.snd he
          exact .inr ⟨items, rest, hsplit, rfl⟩
    rcases hcases with ⟨before', hrest, rfl⟩ | ⟨items, rest, hsplit, rfl⟩
    · obtain ⟨earlier, l', later, items, rest, rfl, hitems, rfl⟩ := ih hrest
      refine ⟨l :: earlier, l', later, items, rest, rfl, hitems, ?_⟩
      rw [← List.append_assoc]
      rfl
    · exact ⟨[], l, lists, items, rest, rfl, hsplit, rfl⟩

/-- The mapping refuses an item of a list, after it has taken all items before it. The items that are
kept are those of the list so far. -/
structure FailsOn (map : StartElement → Except String I) (item : Name)
    (lists : List (StartElement × List Content)) (e : StartElement) (message : String)
    (kept : Collector I) : Prop where
  refused : map e = .error message
  place : ∃ earlier l later items rest, lists = earlier ++ l :: later ∧
    Content.elementsNamed item l.2 = items ++ e :: rest ∧
    (∀ l' ∈ earlier, ∀ x ∈ Content.elementsNamed item l'.2, ∃ value, map x = .ok value) ∧
    items.map map = kept.items.toList.map .ok

/-- A start that fails is that of an item. -/
theorem failsOn_of_starts {lists : List (StartElement × List Content)} {role : ListRole}
    {e : StartElement} {before after : List (ListRole × StartElement)} {message : String}
    {kept : Collector I} (h : startsOf item lists = before ++ (role, e) :: after)
    (hb : (behaviours map).starts before c = ⟨c', none⟩)
    (hr : (behaviours map).react role (.opened e) c' = ⟨kept, some message⟩) :
    FailsOn map item lists e message kept := by
  cases role with
  | list name => cases hr
  | item =>
    cases hmap : map e with
    | ok value =>
      rw [react_item_of_ok hmap] at hr
      cases hr
    | error text =>
      rw [react_item_of_error hmap] at hr
      cases hr
      obtain ⟨earlier, l, later, items, rest, hlists, hitems, rfl⟩ := exists_of_startsOf h
      obtain ⟨between, hearlier, hlist⟩ := Behaviours.exists_of_starts_append _ hb
      exact ⟨hmap, earlier, l, later, items, rest, hlists, hitems, (of_starts hearlier).1,
        of_starts_list hlist⟩

end Collector

/-! ### Runs -/

/-- What is promised of a machine that collects the children of a name of the elements at a path. -/
structure Machine.Collects {I : Type} (m : Machine ListRole (Collector I)) (path : List Name)
    (item : Name) (map : StartElement → Except String I) : Prop where
  /-- Without an element at the path nothing changes. -/
  absent : ∀ (doc : Document) c, (m.play doc.events {} c).error = none →
    Content.reached path doc.contents = [] → (m.play doc.events {} c).data = c
  /-- At the end of a run the items are those of the last element at the path, each mapped. -/
  last : ∀ (doc : Document) c, (m.play doc.events {} c).error = none →
    ∀ before l, Content.reached path doc.contents = before ++ [l] →
      (Content.elementsNamed item l.2).map map =
        (m.play doc.events {} c).data.items.toList.map .ok
  /-- A run that comes to its end has mapped every item of every such element. -/
  mapped : ∀ (doc : Document) c, (m.play doc.events {} c).error = none →
    ∀ l ∈ Content.reached path doc.contents, ∀ e ∈ Content.elementsNamed item l.2,
      ∃ value, map e = .ok value
  /-- Unless an element is too deep, a run that fails gets to an item that the mapping refuses and
  stops there, with the message of the mapping. The items before it in its list are there. -/
  stopped : ∀ (doc : Document) c error, (m.play doc.events {} c).error = some error →
    (∃ limit, m.settings.maxDepth = some limit ∧ error.cause = .depth limit) ∨
      ∃ e message pre post, Collector.FailsOn map item (Content.reached path doc.contents) e message
          (m.play doc.events {} c).data ∧
        doc.events = pre ++ .startElement e :: post ∧ (m.play pre {} c).error = none ∧
        error = ⟨.handler message, lastLocation (pre ++ [.startElement e])⟩

theorem Machine.collects_of_serves {I : Type} {m : Machine ListRole (Collector I)}
    {path : List Name} {item : Name} {map : StartElement → Except String I} (hp : path ≠ [])
    (hb : m.behaviours = Collector.behaviours map) (hl : ∀ s, (m.state s).limit = none)
    (hs : m.Serves (fun _ => true) (pathHandlers [(path, .list item), (path ++ [item], .item)])) :
    m.Collects path item map := by
  have hacts : m.ActsAtStarts := by
    constructor
    · intro b e d
      rw [hb]
      cases b <;> rfl
    · intro b inside c d
      rw [hb]
      cases b <;> rfl
    · intro b x d
      rw [hb]
      rfl
  have hstart : (namePath ([] : List StartElement) ++ path == path) = true := BEq.rfl
  have htold : ∀ doc : Document,
      m.toldAll [] doc.contents = Collector.startsOf item (Content.reached path doc.contents) :=
    fun doc => (Machine.toldAll_of_serves hs doc.contents m.enteredAll_nil).trans
      (tellAll_lists hp hstart doc.contents)
  have hdone : ∀ (doc : Document) c, (m.play doc.events {} c).error = none →
      (Collector.behaviours map).starts
        (Collector.startsOf item (Content.reached path doc.contents)) c =
          ⟨(m.play doc.events {} c).data, none⟩ := by
    intro doc c herror
    rw [← m.error_play_recorded doc.events {} (c, [])] at herror
    have hstarts := hacts.play doc.events herror
    rw [(openings_play m doc c).2 herror, htold, hb] at hstarts
    rw [hstarts, ← m.play_recorded doc.events {} (c, [])]
    rfl
  refine ⟨fun doc c herror => (Collector.of_starts (hdone doc c herror)).2.1,
    fun doc c herror => (Collector.of_starts (hdone doc c herror)).2.2,
    fun doc c herror => (Collector.of_starts (hdone doc c herror)).1, fun doc c error herror => ?_⟩
  obtain ⟨cause, location⟩ := error
  cases hindrance_of_error herror with
  | depth hdepth => exact .inl ⟨_, hdepth, rfl⟩
  | cardinality name hlimit => cases (hl _).symm.trans hlimit
  | @handler _ _ _ message _ =>
    obtain ⟨before, b, e, pre, post, hstop⟩ := hacts.stopsAt herror rfl
    obtain ⟨between, hbefore, hreact⟩ := hstop.fails
    obtain ⟨after, hafter⟩ := (openings_play m doc c).1
    rw [hstop.told, htold, List.append_assoc] at hafter
    rw [hb] at hbefore hreact
    exact .inr ⟨e, message, pre, post, Collector.failsOn_of_starts hafter.symm hbefore hreact,
      hstop.here, hstop.reached, hstop.error⟩

/-! ### Models -/

/-- The scope of a model whose only declaration is a list of items at a path. -/
def listBuilder (n : Nat) (path : List Name) (item : Name) : Builder ListRole :=
  ((Builder.ofModel n).performEach [pathDeclaration (path, .list item)]).2

/-- The construction of the model, in which the list declares its items. -/
def listConstruction {I : Type} (n : Nat) (path : List Name) (item : Name)
    (map : StartElement → Except String I) (settings : BuildSettings) : Construction ListRole :=
  (listBuilder n path item).construct (fun b => ((Collector.behaviours map).element b).declared)
    settings

/-- What is promised of a model that collects a list. -/
structure ListExact {I : Type} (n : Nat) (path : List Name) (item : Name)
    (map : StartElement → Except String I) (settings : BuildSettings) : Prop where
  /-- There is a model if two handlers may declare. -/
  built : 2 ≤ settings.maxHandlerBuilds →
    ∃ model, (listConstruction n path item map settings).model = .ok model
  collects : ∀ m : Machine ListRole (Collector I),
    (listConstruction n path item map settings).model = .ok m.model →
      m.behaviours = Collector.behaviours map → m.Collects path item map

/-- The items of a list are collected as promised, whatever else a document holds. -/
theorem exact_list {I : Type} (n : Nat) {path : List Name} (hp : path ≠ []) (item : Name)
    (map : StartElement → Except String I) (settings : BuildSettings) :
    ListExact n path item map settings := by
  have hregistered : (listBuilder n path item).Registered [(path, ListRole.list item)] :=
    registered_paths n [(path, ListRole.list item)]
  have hsound := (Builder.sound_ofModel n).keeps_performEach
    (isStepwise_paths [(path, ListRole.list item)])
  obtain ⟨o, ha⟩ := hsound.sound.workspace.arranged
  obtain ⟨s, copy, hattachments, hreach⟩ := hregistered.single
  have hboth := hregistered.withChild hattachments hreach item .item
  have hx : ∀ k, ((Collector.behaviours map).element (.list item)).declared k =
      [pathDeclaration ([item], .item)] := fun _ => rfl
  have hy : ∀ k, ((Collector.behaviours map).element .item).declared k = [] := fun _ => rfl
  have hxy : ListRole.list item ≠ .item := nofun
  refine ⟨fun hn => ⟨_, Construction.model_ok_of_child hattachments hx hy hxy hn⟩,
    fun m hm hb => ?_⟩
  have hmodel := Construction.model_of_child hattachments hx hy hxy hm
  have hgraph := congrArg Model.graph hmodel
  have hroot : (listBuilder n path item).graph.Usable .root := hregistered.root ▸ hsound.sound.root
  obtain ⟨o', ha'⟩ := Workspace.exists_arranged_withChild ha (ha.usable_of_reach? hroot hreach)
    item .item
  refine Machine.collects_of_serves hp hb (fun t => ?_) ?_
  · rw [Machine.state, Model.state, hgraph]
    exact hboth.free.limit t
  · exact Machine.serves_paths hboth hgraph (congrArg Model.root hmodel) (.refl _) ha' (.refl _)
      fun _ _ => rfl

/-! The numbers of the items of the last list of a page. -/

def itemNumber (e : StartElement) : Except String String :=
  match e.attribute? (.plain "number") with
  | some number => .ok number
  | none => .error "an item without a number"

def pageItems : Machine ListRole (Collector String) where
  model :=
    let construction :=
      listConstruction 0 [.plain "page", .plain "list"] (.plain "item") itemNumber {}
    ⟨construction.workspace.graph, .root, []⟩
  behaviours := Collector.behaviours itemNumber
  filters := ⟨fun _ _ => false, fun _ _ _ => false⟩

def numberedItem (number : String) (inside : List Content) : Content :=
  .element ⟨.plain "item", ⟨[(.plain "number", number)]⟩, none⟩ inside ⟨.plain "item", none⟩

def plainElement (name : String) (inside : List Content) : Content :=
  .element (.ofName (.plain name)) inside ⟨.plain name, none⟩

/-- Two lists. In the second one an item holds an item and a list. -/
def pageWithLists : Document where
  prolog := []
  root := .ofName (.plain "page")
  inside :=
    [plainElement "list" [numberedItem "1" []],
      plainElement "list" [
        numberedItem "2" [numberedItem "3" [], plainElement "list" [numberedItem "4" []]],
        numberedItem "5" []],
      plainElement "note" [plainElement "list" [numberedItem "6" []]]]
  close := ⟨.plain "page", none⟩
  epilog := []

theorem exact_pageItems :
    (pageItems.play pageWithLists.events {} { items := #["0"] }).data.items.toList = ["2", "5"] := by
  have hp : [Name.plain "page", .plain "list"] ≠ [] := nofun
  obtain ⟨-, hcollects⟩ := exact_list 0 hp (.plain "item") itemNumber {}
  have hm : (listConstruction 0 [.plain "page", .plain "list"] (.plain "item") itemNumber {}).model =
      .ok pageItems.model := by cbv
  have herror : (pageItems.play pageWithLists.events {} { items := #["0"] }).error = none := by cbv
  have hlast : (["2", "5"].map .ok : List (Except String String)) = _ :=
    (hcollects pageItems hm rfl).last pageWithLists _ herror [_] _ rfl
  exact (List.map_injective_iff.2 (fun _ _ => Except.ok.inj) hlast).symm

end StreamSelect
