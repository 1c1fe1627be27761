import StreamSelect.Proofs.Pattern.Parts

/-! Patterns in a group. The text of a pattern that is put into a group is read as it is by itself up
to the parenthesis that closes the group: its own one, or one of the text. -/
namespace StreamSelect.Pattern

/-! ### Readings to the end -/

theorem readFrom_fuel {n m : Nat} {r : Reading} {text : List Char} (hn : text.length < n)
    (hm : text.length < m) : readFrom n r text = readFrom m r text := by
  induction n generalizing r text m with
  | zero => omega
  | succ n ih =>
    obtain ⟨m, rfl⟩ : ∃ k, m = k + 1 := ⟨m - 1, by omega⟩
    have hlength := (skip_suffix r.ignoreBlank text).length_le
    cases hskip : skip r.ignoreBlank text with
    | nil => rw [readFrom_end hskip, readFrom_end hskip]
    | cons c rest =>
      rw [readFrom_part hskip, readFrom_part hskip]
      apply Option.bind_congr
      intro p hp
      have hrest := (part_suffix hp).length_le
      rw [hskip, List.length_cons] at hlength
      exact ih (by omega) (by omega)

/-- The tree of a text from a place on, where something has been read before. -/
def reads (r : Reading) (text : List Char) : Option Tree := readFrom (text.length + 1) r text

section Reads

variable {r : Reading} {text rest : List Char} {c : Char}

theorem reads_end (h : skip r.ignoreBlank text = []) :
    reads r text = if r.enclosing.isEmpty then some r.branches.tree else none :=
  readFrom_end h

theorem reads_part (h : skip r.ignoreBlank text = c :: rest) :
    reads r text = (r.part c rest).bind fun p => reads p.1 p.2 := by
  have hlength := (skip_suffix r.ignoreBlank text).length_le
  rw [reads, readFrom_part h]
  apply Option.bind_congr
  intro p hp
  have hrest := (part_suffix hp).length_le
  rw [h, List.length_cons] at hlength
  exact readFrom_fuel (by omega) (Nat.lt_succ_self _)

end Reads

/-! ### Groups around a reading -/

/-- The reading inside one more group, around all that are open. -/
def Reading.within (r : Reading) (group : OpenGroup) : Reading :=
  { r with enclosing := r.enclosing ++ [group] }

@[simp] theorem within_ignoreBlank (r : Reading) (group : OpenGroup) :
    (r.within group).ignoreBlank = r.ignoreBlank := rfl

theorem enter?_within (r : Reading) (group : OpenGroup) (opening : Opening) :
    (r.within group).enter? opening = (r.enter? opening).map (·.within group) := by
  cases opening with
  | modes changes => rfl
  | group changes captured name =>
    by_cases hname : name.any r.names.contains
    · simp [Reading.enter?, Reading.within, hname]
    · simp [Reading.enter?, Reading.within, hname]

theorem leave?_within {r : Reading} (h : r.enclosing ≠ []) (group : OpenGroup) :
    (r.within group).leave? = r.leave?.map (·.within group) := by
  obtain ⟨inner, enclosing, hr⟩ := List.exists_cons_of_ne_nil h
  simp [Reading.leave?, Reading.within, Reading.close, hr]

theorem leave?_frame {r : Reading} (h : r.enclosing = []) (group : OpenGroup) :
    r.leave? = none ∧ (r.within group).leave? = some (r.close group []) := by
  simp [Reading.leave?, Reading.within, Reading.close, h]

theorem repeatLast_within (r : Reading) (group : OpenGroup) (least : Nat) (most : Option Nat)
    (lazy : Bool) : (r.within group).repeatLast least most lazy =
      (r.repeatLast least most lazy).map (·.within group) := by
  simp only [Reading.repeatLast, Reading.within]
  split <;> rfl

theorem repeated_within (r : Reading) (group : OpenGroup) (bounds : Nat × Option Nat)
    (rest : List Char) : (r.within group).repeated bounds rest =
      (r.repeated bounds rest).map fun p => (p.1.within group, p.2) := by
  simp only [Reading.repeated, Option.bind_some, repeatLast_within, Option.map_map]
  rfl

/-- A group around the others makes no difference to a part, but for the parenthesis that closes it. -/
theorem part_within {r : Reading} {c : Char} (h : ¬ (c = ')' ∧ r.enclosing = []))
    (group : OpenGroup) (rest : List Char) :
    (r.within group).part c rest = (r.part c rest).map fun p => (p.1.within group, p.2) := by
  have hadd (q : Option (Tree × List Char)) :
      (q.map fun p => ((r.within group).push p.1, p.2)) =
        (q.map fun p => (r.push p.1, p.2)).map fun p => (p.1.within group, p.2) := by
    rw [Option.map_map]
    rfl
  unfold Reading.part
  simp only [apply_ite (Option.map _), within_ignoreBlank, repeated_within, hadd]
  refine ite_congr rfl (fun _ => ?_) fun _ => ?_
  · rw [Option.map_bind]
    apply Option.bind_congr
    intro p _
    simp only [Function.comp_apply, enter?_within, Option.map_map]
    rfl
  refine ite_congr rfl (fun hc => ?_) fun _ => ?_
  · rw [leave?_within (fun hr => h ⟨hc, hr⟩), Option.map_map, Option.map_map]
    rfl
  refine ite_congr rfl (fun _ => rfl) fun _ => ?_
  refine ite_congr rfl (fun _ => rfl) fun _ => ?_
  refine ite_congr rfl (fun _ => rfl) fun _ => ?_
  refine ite_congr rfl (fun _ => rfl) fun _ => ?_
  refine ite_congr rfl (fun _ => rfl) fun _ => ?_
  refine ite_congr rfl (fun _ => ?_) fun _ => ?_
  · rw [Option.map_bind]
    rfl
  · exact ite_congr rfl (fun _ => rfl) fun _ => rfl

theorem part_frame {r : Reading} (h : r.enclosing = []) (group : OpenGroup) (rest : List Char) :
    r.part ')' rest = none ∧ (r.within group).part ')' rest = some (r.close group [], rest) := by
  obtain ⟨hnone, hsome⟩ := leave?_frame h group
  have hpart (r : Reading) : r.part ')' rest = r.leave?.map fun r' => (r', rest) := rfl
  rw [hpart, hpart, hnone, hsome]
  exact ⟨rfl, rfl⟩

/-! ### The parenthesis that closes the group -/

section Before

variable {r : Reading} {group : OpenGroup} {a t : List Char} {tree : Tree}

/-- The parenthesis behind the text closes the group around it. Without the group it closes nothing. -/
def ClosesBehind (r : Reading) (group : OpenGroup) (a t : List Char) (tree : Tree) : Prop :=
  (∃ r' : Reading, r'.enclosing = [] ∧ r'.branches.tree = tree ∧
    reads (r.within group) (a ++ ')' :: t) = reads (r'.close group []) t) ∧
  reads r (a ++ ')' :: t) = none

/-- The parenthesis behind the text belongs to a comment, so that the group stays open. -/
def CommentsBehind (r : Reading) (group : OpenGroup) (a t : List Char) (tree : Tree) : Prop :=
  reads (r.within group) (a ++ ')' :: t) = none ∧ reads r (a ++ ')' :: t) = some tree

theorem eq_nil_of_reads_end (h : skip r.ignoreBlank a = []) (hread : reads r a = some tree) :
    r.enclosing = [] ∧ r.branches.tree = tree := by
  rw [reads_end h] at hread
  split at hread
  · rename_i hempty
    exact ⟨List.isEmpty_iff.1 hempty, Option.some.inj hread⟩
  · cases hread

theorem reads_within_end (h : skip r.ignoreBlank a = []) : reads (r.within group) a = none := by
  rw [reads_end (r := r.within group) h, if_neg]
  simp [Reading.within]

theorem reads_within_part {c : Char} {rest : List Char} (h : skip r.ignoreBlank a = c :: rest)
    (hc : ¬ (c = ')' ∧ r.enclosing = [])) :
    reads (r.within group) a = (r.part c rest).bind fun p => reads (p.1.within group) p.2 := by
  rw [reads_part (r := r.within group) h, part_within hc, Option.bind_map]
  rfl

theorem closes_of_end (h : skip r.ignoreBlank (a ++ ')' :: t) = ')' :: t) (hr : r.enclosing = []) :
    ClosesBehind r group a t r.branches.tree := by
  obtain ⟨hnone, hsome⟩ := part_frame hr group t
  refine ⟨⟨r, hr, rfl, ?_⟩, ?_⟩
  · rw [reads_part (r := r.within group) h, hsome]
    rfl
  · rw [reads_part h, hnone]
    rfl

/-- A text that is read by itself is read before a parenthesis, up to it; or it ends in a comment,
which takes the rest of the line up. -/
theorem closes_or_comments (group : OpenGroup) (ht : '\n' ∉ t) (h : reads r a = some tree) :
    ClosesBehind r group a t tree ∨ CommentsBehind r group a t tree := by
  -- part by part: after each one the text that remains is shorter
  induction hn : a.length using Nat.strong_induction_on generalizing a r with
  | _ n ih =>
    rcases skip_append r.ignoreBlank a t with hsame | ⟨halone, _, hline⟩
    · cases hskip : skip r.ignoreBlank a with
      | nil =>
        obtain ⟨hr, rfl⟩ := eq_nil_of_reads_end hskip h
        rw [hskip] at hsame
        exact .inl (closes_of_end hsame hr)
      | cons c b =>
        have hskip' : skip r.ignoreBlank (a ++ ')' :: t) = c :: (b ++ ')' :: t) := by
          rw [hsame, hskip]
          rfl
        rw [reads_part hskip] at h
        obtain ⟨⟨r', rest⟩, hpart, h⟩ := Option.bind_eq_some_iff.1 h
        have hc : ¬ (c = ')' ∧ r.enclosing = []) := by
          rintro ⟨rfl, hr⟩
          rw [(part_frame hr group b).1] at hpart
          cases hpart
        have hwithin := @reads_within_part r group _ c _ hskip' hc
        rcases alike_part r c b t with halike | ⟨rfl, hbrace⟩
        · have hlength := (skip_suffix r.ignoreBlank a).length_le
          have hrest : rest.length ≤ b.length := (part_suffix hpart).length_le
          rw [hskip, List.length_cons] at hlength
          cases halike with
          | same halone hbefore =>
            obtain ⟨rfl, rfl⟩ : (r', rest) = (_, _) := Option.some.inj (hpart.symm.trans halone)
            rw [hbefore, Option.bind_some] at hwithin
            have hread : reads r (a ++ ')' :: t) = reads r' (rest ++ ')' :: t) := by
              rw [reads_part hskip', hbefore, Option.bind_some]
            rcases ih rest.length (by omega) h rfl with ⟨⟨s, hs, htree, hs'⟩, hnone⟩ | hcomments
            · exact .inl ⟨⟨s, hs, htree, hwithin.trans hs'⟩, hread.trans hnone⟩
            · exact .inr ⟨hwithin.trans hcomments.1, hread.trans hcomments.2⟩
          | apart halone _ hline =>
            -- the last part ends in a comment, which goes on over the parenthesis
            obtain rfl : rest = [] := halone _ hpart
            have hbefore := hline ht _ hpart
            rw [hbefore, Option.bind_some] at hwithin
            right
            refine ⟨hwithin.trans (reads_within_end (skip_nil _)), ?_⟩
            rw [reads_part hskip', hbefore, Option.bind_some, h]
        · rw [part_escape, hbrace.alone] at hpart
          cases hpart
    · obtain ⟨hr, rfl⟩ := eq_nil_of_reads_end halone h
      have hbefore := hline ht
      right
      refine ⟨reads_within_end hbefore, ?_⟩
      rw [reads_end hbefore, if_pos (List.isEmpty_iff.2 hr)]

end Before

section Closed

variable {r : Reading} {group : OpenGroup} {w : List Char} {tree : Tree}

/-- A parenthesis of the text closes the group around it: what is before it is read by itself, and
what is behind it goes on after the group. -/
def ClosedWithin (r : Reading) (group : OpenGroup) (w : List Char) (tree : Tree) : Prop :=
  ∃ (pre post : List Char) (r' : Reading), w = pre ++ ')' :: post ∧ r'.enclosing = [] ∧
    reads r pre = some r'.branches.tree ∧ reads (r'.close group []) post = some tree

theorem reads_of_skip_nil {a : List Char} (h : skip r.ignoreBlank a = []) (hr : r.enclosing = []) :
    reads r a = some r.branches.tree := by
  rw [reads_end h, if_pos (List.isEmpty_iff.2 hr)]

/-- A brace that nothing but blanks follow opens no bounds, so the reading stops at it. -/
theorem reads_brace {rest : List Char} (h : skip r.ignoreBlank rest = []) :
    reads r ('{' :: rest) = none := by
  have hskip : skip r.ignoreBlank ('{' :: rest) = '{' :: rest := by
    cases r.ignoreBlank <;> rfl
  have hpart : r.part '{' rest =
      (readBraceBounds r.ignoreBlank rest).bind fun p => r.repeated p.1 p.2 := rfl
  rw [reads_part hskip, hpart, readBraceBounds_blank h]
  rfl

theorem not_suffix_self {a t : List Char} : ¬ (a ++ ')' :: t <:+ t) := by
  intro h
  have hlength := h.length_le
  simp only [List.length_append, List.length_cons] at hlength
  omega

/-- A part that is read before the parenthesis is read from the text alone, too, if the rest is. -/
theorem reads_front {c : Char} {front pre post b : List Char} {r' : Reading}
    (hskip : skip r.ignoreBlank (front ++ pre ++ ')' :: post) = c :: b)
    (hpart : r.part c b = some (r', pre ++ ')' :: post)) (hpre : reads r' pre = some tree) :
    reads r (front ++ pre) = some tree := by
  have hsuffix : pre ++ ')' :: post <:+ b := part_suffix hpart
  rcases skip_append r.ignoreBlank (front ++ pre) post with hsame | ⟨_, hcomment, _⟩
  · rw [hskip] at hsame
    cases hs : skip r.ignoreBlank (front ++ pre) with
    | nil =>
      obtain ⟨-, rfl⟩ : c = ')' ∧ b = post := by simpa [hs] using hsame
      exact absurd hsuffix not_suffix_self
    | cons d b' =>
      obtain ⟨rfl, rfl⟩ : c = d ∧ b = b' ++ ')' :: post := by simpa [hs] using hsame
      rw [reads_part hs]
      rcases alike_part r c b' post with halike | ⟨rfl, hbrace⟩
      · cases halike with
        | @same x rest halone hbefore =>
          have heq := Option.some.inj (hpart.symm.trans hbefore)
          obtain ⟨rfl, rfl⟩ : r' = x ∧ pre = rest := by simpa using heq
          rw [halone, Option.bind_some, hpre]
        | apart _ hbefore _ => exact absurd (hbefore _ hpart) not_suffix_self
      · -- the brace behind the boundary would have to be read next, and that fails
        obtain ⟨⟨inner, rfl, hblank⟩, _, hbefore⟩ := hbrace
        rw [part_escape, hbefore] at hpart
        have heq := Option.some.inj hpart
        obtain ⟨rfl, hrest⟩ := Prod.mk.inj heq
        obtain rfl : '{' :: inner = pre := List.append_cancel_right hrest
        rw [reads_brace (r := r.push _) hblank] at hpre
        cases hpre
  · rw [hskip] at hcomment
    exact absurd ((hsuffix.trans (List.suffix_cons c b)).trans hcomment) not_suffix_self

/-- A reading that comes to its end inside a group has come over the parenthesis of the group. -/
theorem closedWithin_of_reads (h : reads (r.within group) w = some tree) :
    ClosedWithin r group w tree := by
  -- the split is found in what remains after a part, and the part is put in front of it
  induction hn : w.length using Nat.strong_induction_on generalizing w r with
  | _ n ih =>
    cases hskip : skip r.ignoreBlank w with
    | nil =>
      rw [reads_within_end hskip] at h
      cases h
    | cons c b =>
      have hb : c :: b <:+ w := hskip ▸ skip_suffix r.ignoreBlank w
      have hlength := hb.length_le
      by_cases hc : c = ')' ∧ r.enclosing = []
      · obtain ⟨rfl, hr⟩ := hc
        obtain ⟨pre, rfl⟩ := hb
        have hnil : skip r.ignoreBlank pre = [] := by
          rcases skip_append r.ignoreBlank pre b with hsame | ⟨hnil, _⟩
          · rw [hskip] at hsame
            simpa using hsame
          · exact hnil
        rw [reads_part (r := r.within group) hskip, (part_frame hr group b).2] at h
        exact ⟨pre, b, r, rfl, hr, reads_of_skip_nil hnil hr, h⟩
      · rw [reads_within_part hskip hc] at h
        obtain ⟨⟨r₁, rest⟩, hpart, h⟩ := Option.bind_eq_some_iff.1 h
        have hrest : rest <:+ b := part_suffix hpart
        have hlen := hrest.length_le
        simp only [List.length_cons] at hlength
        obtain ⟨pre, post, r', rfl, hr', hpre, hpost⟩ := ih rest.length (by omega) h rfl
        obtain ⟨front, rfl⟩ := hrest.trans ((List.suffix_cons c b).trans hb)
        rw [← List.append_assoc] at hskip
        exact ⟨front ++ pre, post, r', by simp, hr', reads_front hskip hpart hpre, hpost⟩

end Closed

end StreamSelect.Pattern
