import StreamSelect.Proofs.Document.Openings
import StreamSelect.Proofs.Selection.ExplicitPaths

/-! Handlers of a path, and of the children of a name below it, on trees. Such handlers are told of
the elements at the path, in document order, and of the children of each right after it, whatever
lies around them. -/
namespace StreamSelect

variable {B D : Type}

namespace Content

/-- The element and what it contains, if it has a name. -/
def named? (n : Name) : Content → Option (StartElement × List Content)
  | .aside _ => none
  | .element e inside _ => if e.name == n then some (e, inside) else none

/-- The children of a name, each with what it contains. -/
def childrenNamed (n : Name) (contents : List Content) : List (StartElement × List Content) :=
  contents.filterMap (named? n)

def elementsNamed (n : Name) (contents : List Content) : List StartElement :=
  (childrenNamed n contents).map (·.1)

/-- The elements at a path of names, each with what it contains, in document order. -/
def reached : List Name → List Content → List (StartElement × List Content)
  | [], _ => []
  | [n], contents => childrenNamed n contents
  | n :: path, contents => (childrenNamed n contents).flatMap fun child => reached path child.2

mutual
/-- The handlers to be told of the elements of a tree, if `who` gives those of an element by the
elements that end with it, innermost first. -/
def tell (who : List StartElement → List B) (around : List StartElement) :
    Content → List (B × StartElement)
  | .aside _ => []
  | .element e inside _ => (who (e :: around)).map (·, e) ++ tellAll who (e :: around) inside

def tellAll (who : List StartElement → List B) (around : List StartElement) :
    List Content → List (B × StartElement)
  | [] => []
  | c :: cs => tell who around c ++ tellAll who around cs
end

end Content

/-! ### Machines and trees -/

namespace Machine

variable {m : Machine B D} {who : List StartElement → List B}

mutual
theorem told_of_serves (h : m.Serves (fun _ => true) who) : ∀ (c : Content) {frames : List Frame},
    m.EnteredAll frames →
    m.told (frames.map Frame.ancestor) c = c.tell who (frames.map (·.element))
  | .aside a, frames, he => by rw [told, Content.tell]
  | .element e inside close, frames, he => by
    let frame : Frame := ⟨m.entry (frames.map Frame.ancestor) e, [], e⟩
    have hframe : m.EnteredAll (frame :: frames) := he.cons rfl
    have haudience : m.audience (m.entry (frames.map Frame.ancestor) e) =
        who (e :: frames.map (·.element)) := h.audience_eq hframe
    rw [told, Content.tell, haudience]
    exact congrArg _ (toldAll_of_serves h inside hframe)

/-- A machine tells the handlers it serves. -/
theorem toldAll_of_serves (h : m.Serves (fun _ => true) who) : ∀ (cs : List Content)
    {frames : List Frame}, m.EnteredAll frames →
    m.toldAll (frames.map Frame.ancestor) cs = Content.tellAll who (frames.map (·.element)) cs
  | [], frames, he => by rw [toldAll, Content.tellAll]
  | c :: cs, frames, he => by
    rw [toldAll, Content.tellAll, told_of_serves h c he, toldAll_of_serves h cs he]
end

end Machine

namespace Content

section

variable {who : List StartElement → List B}

mutual
theorem tell_of_silent : ∀ (c : Content) {around : List StartElement},
    (∀ inner e, who (inner ++ e :: around) = []) → c.tell who around = []
  | .aside a, around, h => by rw [tell]
  | .element e inside close, around, h => by
    have hinside : tellAll who (e :: around) inside = [] := by
      refine tellAll_of_silent inside fun inner x => ?_
      rw [List.append_cons]
      exact h (inner ++ [x]) e
    rw [tell, hinside, show who (e :: around) = [] from h [] e]
    rfl

/-- Where no element has handlers nobody is told. -/
theorem tellAll_of_silent : ∀ (cs : List Content) {around : List StartElement},
    (∀ inner e, who (inner ++ e :: around) = []) → tellAll who around cs = []
  | [], around, h => by rw [tellAll]
  | c :: cs, around, h => by rw [tellAll, tell_of_silent c h, tellAll_of_silent cs h, List.append_nil]
end

/-- If only children of a name have handlers, or elements below these, then what they are told is
told for each in turn. -/
theorem tellAll_of_children {n : Name} {around : List StartElement}
    {each : StartElement × List Content → List (B × StartElement)}
    (hother : ∀ e, (e.name == n) = false → ∀ inner, who (inner ++ e :: around) = [])
    (heach : ∀ e inside, (e.name == n) = true →
      (who (e :: around)).map (·, e) ++ tellAll who (e :: around) inside = each (e, inside))
    (cs : List Content) : tellAll who around cs = (childrenNamed n cs).flatMap each := by
  induction cs with
  | nil => rw [tellAll]; rfl
  | cons c cs ih =>
    rw [tellAll, ih, childrenNamed, childrenNamed, List.filterMap_cons]
    cases c with
    | aside a => rw [tell]; rfl
    | element e inside close =>
      rw [named?, tell]
      cases hn : e.name == n with
      | true =>
        rw [heach e inside hn]
        rfl
      | false =>
        have hsilent := hother e hn
        have hinside : tellAll who (e :: around) inside = [] := by
          refine tellAll_of_silent inside fun inner x => ?_
          rw [List.append_cons]
          exact hsilent (inner ++ [x])
        rw [hinside, show who (e :: around) = [] from hsilent []]
        rfl

end

end Content

/-! ### Two paths -/

section

variable {path : List Name} {item : Name} {x y : B}

/-- An element at the path, with what it contains, and the children of the name. -/
def tellList (item : Name) (x y : B) (l : StartElement × List Content) : List (B × StartElement) :=
  (x, l.1) :: (Content.elementsNamed item l.2).map (y, ·)

theorem pathHandlers_pair (elements : List StartElement) :
    pathHandlers [(path, x), (path ++ [item], y)] elements =
      (if path == namePath elements then [x] else []) ++
        if path ++ [item] == namePath elements then [y] else [] := by
  unfold pathHandlers attachedAt
  rw [List.filter_cons, List.filter_cons, List.filter_nil]
  cases path == namePath elements <;> cases path ++ [item] == namePath elements <;> rfl

/-- An element that is not at the length of the paths has no handlers. -/
theorem pathHandlers_of_length {elements : List StartElement} (h : elements.length ≠ path.length)
    (h' : elements.length ≠ path.length + 1) :
    pathHandlers [(path, x), (path ++ [item], y)] elements = [] := by
  have hlength : ∀ names : List Name, (names == namePath elements) = true →
      names.length = elements.length := by
    intro names hn
    have hsame := congrArg List.length (names_beq_iff.1 hn)
    simpa [namePath] using hsame
  rw [pathHandlers_pair, if_neg fun hp => h (hlength _ hp).symm, if_neg fun hp => h' ?_]
  · rfl
  · rw [← hlength _ hp, List.length_append, List.length_singleton]

/-- Below an element that leaves the paths nobody has handlers. -/
theorem pathHandlers_of_leaving {around : List StartElement} {n : Name} {rest : List Name}
    (hp : (namePath around ++ n :: rest == path ++ [item]) = true) {e : StartElement}
    (he : (e.name == n) = false) (inner : List StartElement) :
    pathHandlers [(path, x), (path ++ [item], y)] (inner ++ e :: around) = [] := by
  have hnames : namePath (inner ++ e :: around) = namePath around ++ e.name :: namePath inner := by
    simp [namePath]
  -- the names of such an element begin with those that lead to the one that leaves
  have hleft : ∀ more, (path ++ [item] == namePath (inner ++ e :: around) ++ more) = true → False := by
    intro more hm
    have hsame := names_beq_iff.1 (BEq.trans hp hm)
    rw [hnames, List.append_assoc, List.map_append, List.map_append, List.append_cancel_left_eq] at hsame
    have hkey : n.key = e.name.key := (List.cons.inj hsame).1
    rw [BEq.comm, Name.beq_iff_key.2 hkey] at he
    cases he
  rw [pathHandlers_pair, if_neg fun h => hleft [item] ?_, if_neg fun h => hleft [] ?_]
  · rfl
  · rwa [List.append_nil]
  · exact append_beq_append h BEq.rfl

theorem namePath_cons_beq {around : List StartElement} {n : Name} {rest : List Name}
    (hp : (namePath around ++ n :: rest == path) = true) {e : StartElement}
    (he : (e.name == n) = true) : (namePath (e :: around) ++ rest == path) = true := by
  rw [names_beq_iff] at hp ⊢
  rw [namePath_cons, ← hp]
  simp [Name.beq_iff_key.1 he]

/-- Right below the path the children of the name are told. -/
theorem tellAll_items {around : List StartElement} (hp : (namePath around == path) = true)
    (cs : List Content) :
    Content.tellAll (pathHandlers [(path, x), (path ++ [item], y)]) around cs =
      (Content.elementsNamed item cs).map (y, ·) := by
  have hlength : around.length = path.length := by
    have hsame := congrArg List.length (names_beq_iff.1 hp)
    simpa [namePath] using hsame
  have hitem : (namePath around ++ [item] == path ++ [item]) = true := append_beq_append hp BEq.rfl
  rw [Content.elementsNamed, List.map_map, List.map_eq_flatMap]
  refine Content.tellAll_of_children (fun e he inner => pathHandlers_of_leaving hitem he inner)
    (fun e inside he => ?_) cs
  have hat : (path ++ [item] == namePath (e :: around)) = true := by
    have hends := namePath_cons_beq hitem he
    rw [List.append_nil] at hends
    exact BEq.symm hends
  have hnot : ¬(path == namePath (e :: around)) = true := by
    intro h
    have hsame := congrArg List.length (names_beq_iff.1 h)
    simp only [List.length_map, namePath, List.length_reverse, List.length_cons] at hsame
    omega
  rw [pathHandlers_pair, if_neg hnot, if_pos hat, Content.tellAll_of_silent inside fun inner z => ?_]
  · rfl
  · apply pathHandlers_of_length
    all_goals
      rw [List.length_append, List.length_cons, List.length_cons]
      omega

/-- Handlers of a path and of the children of a name below it are told of the elements at the path, of
each before its children. -/
theorem tellAll_lists {rest : List Name} (hr : rest ≠ []) {around : List StartElement}
    (hp : (namePath around ++ rest == path) = true) (cs : List Content) :
    Content.tellAll (pathHandlers [(path, x), (path ++ [item], y)]) around cs =
      (Content.reached rest cs).flatMap (tellList item x y) := by
  induction rest generalizing around cs with
  | nil => exact absurd rfl hr
  | cons n rest ih =>
    have hlength : around.length + (rest.length + 1) = path.length := by
      have hsame := congrArg List.length (names_beq_iff.1 hp)
      simpa [namePath] using hsame
    have hleaving : (namePath around ++ n :: (rest ++ [item]) == path ++ [item]) = true := by
      rw [← List.cons_append, ← List.append_assoc]
      exact append_beq_append hp BEq.rfl
    cases rest with
    | nil =>
      refine Content.tellAll_of_children (fun e he inner => pathHandlers_of_leaving hleaving he inner)
        (fun e inside he => ?_) cs
      have hends := namePath_cons_beq hp he
      rw [List.append_nil] at hends
      have hnot : ¬(path ++ [item] == namePath (e :: around)) = true := by
        intro h
        have hsame := congrArg List.length (names_beq_iff.1 (BEq.trans h hends))
        simp at hsame
      rw [tellAll_items hends, pathHandlers_pair, if_pos (BEq.symm hends), if_neg hnot]
      rfl
    | cons k rest =>
      have hreached : Content.reached (n :: k :: rest) cs =
          (Content.childrenNamed n cs).flatMap fun child => Content.reached (k :: rest) child.2 := rfl
      rw [hreached, List.flatMap_assoc]
      refine Content.tellAll_of_children (fun e he inner => pathHandlers_of_leaving hleaving he inner)
        (fun e inside he => ?_) cs
      rw [ih (List.cons_ne_nil k rest) (namePath_cons_beq hp he) inside, pathHandlers_of_length]
      · rfl
      all_goals
        simp only [List.length_cons] at hlength ⊢
        omega

end

end StreamSelect
