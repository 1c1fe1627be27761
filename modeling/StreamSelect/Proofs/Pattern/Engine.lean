import StreamSelect.Pattern
import StreamSelect.Proofs.Pattern.Framing
import StreamSelect.Proofs.Pattern.Matching

/-! What the results on patterns need of the engine. A text is put between a test for the start and
one for the end by writing it between the signs of a frame; a text that stands for an expression by
itself is then matched as a whole, and any other one closes the frame. The results use these laws
alone. -/
namespace StreamSelect.Pattern

/-- The group that the frame opens, behind its test for the start. -/
def frameGroup : OpenGroup where
  outer := { items := [.anchor .lineStart] }
  changes := []
  number := none
  ignoreBlank := false

/-- The tree of a text between the frames. -/
def framedTree (t : Tree) : Tree :=
  .concat [.anchor .lineStart, .group [] none t, .anchor .lineEnd]

/-- Without modes nothing is left out. -/
theorem reads_cons {r : Reading} (h : r.ignoreBlank = false) (c : Char) (rest : List Char) :
    reads r (c :: rest) = (r.part c rest).bind fun p => reads p.1 p.2 := by
  apply reads_part
  rw [h]
  rfl

theorem readOpening_frame (w : List Char) :
    readOpening false ('?' :: ':' :: w) = some (.group [] false none, w) := by
  rw [readOpening_eq]
  rfl

theorem reads_frameStart (w : List Char) :
    reads {} ('^' :: '(' :: '?' :: ':' :: w) = reads (Reading.within {} frameGroup) w := by
  have hgroup (r : Reading) (rest : List Char) : r.part '(' rest =
      (readOpening r.ignoreBlank rest).bind fun p => (r.enter? p.1).map fun r' => (r', p.2) := rfl
  have hanchor : ({} : Reading).part '^' ('(' :: '?' :: ':' :: w) =
      some (({} : Reading).push (.anchor .lineStart), '(' :: '?' :: ':' :: w) := rfl
  rw [reads_cons rfl, hanchor, Option.bind_some, reads_cons rfl, hgroup]
  change ((readOpening false ('?' :: ':' :: w)).bind _).bind _ = _
  rw [readOpening_frame]
  rfl

theorem reads_frameEnd (r : Reading) :
    reads (r.close frameGroup []) ['$'] = some (framedTree r.branches.tree) := by
  rw [reads_cons rfl]
  rfl

theorem reads_framed (source : String) : reads {} (framed source).toList =
    reads (Reading.within {} frameGroup) (source.toList ++ [')', '$']) := by
  rw [← reads_frameStart]
  simp [framed, String.toList_append]

/-- A parenthesis of the text closes the group of the frame: what is before it is read by itself, and
what is behind it is read behind the group, with the closing sign at its end. -/
def ClosesFrame (source : String) : Prop :=
  ∃ (pre post : List Char) (r : Reading), source.toList = pre ++ ')' :: post ∧ r.enclosing = [] ∧
    reads {} pre = some r.branches.tree ∧
    (reads (r.close frameGroup []) (post ++ [')', '$'])).isSome

/-- A text that is read by itself is read between the frames, unless it ends in a comment, which the
closing sign belongs to. -/
theorem reads_framed_of_reads {source : String} {t : Tree} (h : reads {} source.toList = some t) :
    (reads {} (framed source).toList = some (framedTree t) ∧
        reads {} (source ++ ")$").toList = none) ∨
      reads {} (framed source).toList = none ∧ reads {} (source ++ ")$").toList = some t := by
  have happend : (source ++ ")$").toList = source.toList ++ [')', '$'] := String.toList_append
  rw [reads_framed, happend]
  have hline : '\n' ∉ ['$'] := by decide
  rcases closes_or_comments frameGroup hline h with ⟨⟨r, _, rfl, hr⟩, hnone⟩ | hcomments
  · exact .inl ⟨hr.trans (reads_frameEnd r), hnone⟩
  · exact .inr hcomments

theorem append_eq_append_cons {s pre post : List Char} (h : s ++ [')', '$'] = pre ++ ')' :: post) :
    s = pre ∧ post = ['$'] ∨ ∃ post', s = pre ++ ')' :: post' ∧ post = post' ++ [')', '$'] := by
  rcases List.append_eq_append_iff.1 h with ⟨a, rfl, ha⟩ | ⟨b, rfl, hb⟩
  · cases a with
    | nil =>
      left
      simpa using ha.symm
    | cons c a =>
      exfalso
      cases a <;> simp_all
  · cases b with
    | nil =>
      left
      simpa using hb
    | cons c b =>
      right
      obtain ⟨rfl, rfl⟩ := List.cons.inj hb
      exact ⟨b, rfl, rfl⟩

/-- What is read between the frames is read by itself, or closes the frame. -/
theorem reads_or_closesFrame {source : String} {tree : Tree}
    (h : reads {} (framed source).toList = some tree) :
    (∃ t, reads {} source.toList = some t ∧ tree = framedTree t) ∨ ClosesFrame source := by
  rw [reads_framed] at h
  obtain ⟨pre, post, r, hsource, hr, hpre, hpost⟩ := closedWithin_of_reads h
  rcases append_eq_append_cons hsource with ⟨rfl, rfl⟩ | ⟨post', hsplit, rfl⟩
  · left
    rw [reads_frameEnd] at hpost
    exact ⟨_, hpre, (Option.some.inj hpost).symm⟩
  · exact .inr ⟨pre, post', r, hsplit, hr, hpre, Option.isSome_of_eq_some hpost⟩

/-! ### Depth and meaning -/

theorem read?_eq (text : String) : Tree.read? text =
    (reads {} text.toList).bind fun t => if t.depth ≤ maxDepth then some t else none := rfl

theorem read?_eq_some {text : String} {t : Tree} :
    Tree.read? text = some t ↔ reads {} text.toList = some t ∧ t.depth ≤ maxDepth := by
  rw [read?_eq, Option.bind_eq_some_iff]
  constructor
  · rintro ⟨t', hread, hdepth⟩
    split at hdepth
    · cases hdepth
      exact ⟨hread, ‹_›⟩
    · cases hdepth
  · rintro ⟨hread, hdepth⟩
    exact ⟨t, hread, if_pos hdepth⟩

theorem depth_framedTree (t : Tree) : (framedTree t).depth = t.depth + 2 := by
  simp [framedTree, Tree.depth, Tree.depthOfParts]

/-- What the frame makes of an expression. -/
def Regex.framed (r : Regex) : Regex := .sequence [.look .textStart, r, .look .textEnd]

theorem meaning_framedTree (t : Tree) :
    (framedTree t).meaning {} = (t.meaning {}).map fun p => (p.1.framed, {}) := by
  have hchange : Modes.change {} [] = {} := rfl
  simp only [framedTree, Tree.meaning, Tree.meanings, Option.bind_eq_bind, Option.bind_some, hchange]
  cases t.meaning {} <;> rfl

theorem parse?_eq_some {text : String} {r : Regex} : Regex.parse? text = some r ↔
    ∃ t m, Tree.read? text = some t ∧ t.meaning {} = some (r, m) := by
  simp [Regex.parse?, Option.bind_eq_some_iff]

/-- Room for the frame around a text: no comment takes the closing sign up, and two more levels are
not too deep. -/
structure LeavesRoom (source : String) (t : Tree) : Prop where
  closing : Tree.read? (source ++ ")$") = none
  depth : t.depth + 2 ≤ maxDepth

theorem parse?_framed {source : String} {t : Tree} {r : Regex} {m : Modes}
    (hread : Tree.read? source = some t) (hmeaning : t.meaning {} = some (r, m)) (q : Regex) :
    Regex.parse? (framed source) = some q ↔ LeavesRoom source t ∧ q = r.framed := by
  obtain ⟨hreads, hdepth⟩ := read?_eq_some.1 hread
  rw [parse?_eq_some]
  rcases reads_framed_of_reads hreads with ⟨hframed, hnone⟩ | ⟨hframed, hsome⟩
  · have hclosing : Tree.read? (source ++ ")$") = none := by
      rw [read?_eq, hnone]
      rfl
    simp only [read?_eq_some, hframed, Option.some.injEq]
    constructor
    · rintro ⟨_, _, ⟨rfl, hdepth'⟩, hq⟩
      rw [meaning_framedTree, hmeaning] at hq
      obtain ⟨rfl, -⟩ := Prod.mk.inj (Option.some.inj hq)
      exact ⟨⟨hclosing, depth_framedTree t ▸ hdepth'⟩, rfl⟩
    · rintro ⟨hroom, rfl⟩
      refine ⟨_, {}, ⟨rfl, ?_⟩, ?_⟩
      · rw [depth_framedTree]
        exact hroom.depth
      · rw [meaning_framedTree, hmeaning]
        rfl
  · have hclosing : Tree.read? (source ++ ")$") = some t := read?_eq_some.2 ⟨hsome, hdepth⟩
    constructor
    · rintro ⟨_, _, hread', _⟩
      rw [read?_eq, hframed] at hread'
      cases hread'
    · rintro ⟨hroom, _⟩
      rw [hroom.closing] at hclosing
      cases hclosing

theorem closesFrame_of_parse? {source : String} {q : Regex}
    (h : Regex.parse? (framed source) = some q) (hnone : Regex.parse? source = none) :
    ClosesFrame source := by
  obtain ⟨tree, m, hread, hmeaning⟩ := parse?_eq_some.1 h
  obtain ⟨hreads, hdepth⟩ := read?_eq_some.1 hread
  rcases reads_or_closesFrame hreads with ⟨t, hsource, rfl⟩ | hcloses
  · exfalso
    rw [depth_framedTree] at hdepth
    rw [meaning_framedTree] at hmeaning
    obtain ⟨⟨r, m'⟩, ht, _⟩ := Option.map_eq_some_iff.1 hmeaning
    have hparse := parse?_eq_some.2 ⟨t, m', read?_eq_some.2 ⟨hsource, by omega⟩, ht⟩
    rw [hnone] at hparse
    cases hparse
  · exact hcloses

/-! ### The laws -/

/-- What the results on patterns need of the engine. -/
structure EngineLaws : Prop where
  /-- Between the frames stands the framed expression, if there is room, and nothing else. -/
  framed : ∀ {source : String} {t : Tree} {r : Regex} {m : Modes}, Tree.read? source = some t →
    t.meaning {} = some (r, m) → ∀ q, Regex.parse? (Pattern.framed source) = some q ↔
      LeavesRoom source t ∧ q = r.framed
  /-- What stands for an expression only between the frames closes the first of them. -/
  closes : ∀ {source : String} {q : Regex}, Regex.parse? (Pattern.framed source) = some q →
    Regex.parse? source = none → ClosesFrame source
  /-- A framed expression occurs where the expression matches the whole value. -/
  whole : ∀ (r : Regex) (value : String),
    r.framed.occursIn value = true ↔ r.Spans value.toList 0 value.toList.length

theorem engineLaws : EngineLaws where
  framed := parse?_framed
  closes := closesFrame_of_parse?
  whole r value := by rw [Regex.framed, Regex.occursIn_framed]

end StreamSelect.Pattern
