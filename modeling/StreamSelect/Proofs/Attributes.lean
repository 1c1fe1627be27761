import StreamSelect.Attributes
import Mathlib.Data.List.Forall2
import Mathlib.Data.List.Induction

/-! The map of attributes against the insertions that made it. The names stand in the order in which
they were first inserted and as they were then written; a name has the value inserted last. Maps are
equal exactly if their insertions agree on both. -/
namespace StreamSelect.Attributes

open List (Forall₂)

/-- Names of entries are pairwise different. -/
def Different (entries : List (Name × String)) : Prop :=
  entries.Pairwise fun a b => (a.1 == b.1) = false

def names (a : Attributes) : List Name := a.entries.map (·.1)

/-- Inserts the entries one by one into a map that may have entries of its own. -/
def insertAll (a : Attributes) (entries : List (Name × String)) : Attributes :=
  entries.foldl (fun a entry => a.insert entry.1 entry.2) a

theorem ofList_concat (entries : List (Name × String)) (entry : Name × String) :
    ofList (entries ++ [entry]) = (ofList entries).insert entry.1 entry.2 :=
  List.foldl_concat _ _ _ _

theorem insertAll_ofList (collected inserted : List (Name × String)) :
    (ofList collected).insertAll inserted = ofList (collected ++ inserted) :=
  List.foldl_append.symm

/-! ### What insertions say -/

/-- Every inserted name at its first insertion: those that no equal name was inserted before. -/
def firstNames (entries : List (Name × String)) : List Name :=
  (entries.zipIdx.filter fun (entry, k) => !(entries.take k).any (·.1 == entry.1)).map (·.1.1)

/-- The value of the last insertion under a name. -/
def lastValue? (entries : List (Name × String)) (name : Name) : Option String :=
  (entries.reverse.find? (·.1 == name)).map (·.2)

theorem firstNames_concat (entries : List (Name × String)) (entry : Name × String) :
    firstNames (entries ++ [entry]) =
      firstNames entries ++ if entries.any (·.1 == entry.1) then [] else [entry.1] := by
  have hbefore : ∀ p ∈ entries.zipIdx,
      (!((entries ++ [entry]).take p.2).any (·.1 == p.1.1)) =
        !(entries.take p.2).any (·.1 == p.1.1) := by
    intro p hp
    have hlt := List.snd_lt_of_mem_zipIdx hp
    rw [List.take_append_of_le_length (by omega)]
  unfold firstNames
  rw [List.zipIdx_append, List.filter_append, List.map_append, List.filter_congr hbefore]
  congr 1
  cases h : entries.any (·.1 == entry.1) <;> simp [h, -List.any_eq_true, -List.any_eq_false]

theorem lastValue?_concat (entries : List (Name × String)) (entry : Name × String) (name : Name) :
    lastValue? (entries ++ [entry]) name =
      if entry.1 == name then some entry.2 else lastValue? entries name := by
  by_cases h : (entry.1 == name) = true <;> simp [lastValue?, h]

theorem isSome_lastValue? (entries : List (Name × String)) (name : Name) :
    (lastValue? entries name).isSome = entries.any (·.1 == name) := by
  rw [Bool.eq_iff_iff]
  simp [lastValue?]

/-! ### One insertion -/

theorem contains_eq (a : Attributes) (name : Name) :
    a.contains name = a.names.any (· == name) := by
  rw [Bool.eq_iff_iff]
  simp [contains, get?, names]

theorem insertEntry_of_forall_ne {name : Name} {value : String} {entries : List (Name × String)}
    (h : ∀ entry ∈ entries, (entry.1 == name) = false) :
    insertEntry name value entries = entries ++ [(name, value)] := by
  induction entries with
  | nil => rfl
  | cons entry rest ih =>
    obtain ⟨hfirst, hrest⟩ := List.forall_mem_cons.1 h
    simp [insertEntry, hfirst, ih hrest]

/-- A name that is there keeps its place and the way it is written. -/
theorem names_insert (a : Attributes) (name : Name) (value : String) :
    (a.insert name value).names = a.names ++ if a.contains name then [] else [name] := by
  obtain ⟨entries⟩ := a
  rw [contains_eq]
  unfold insert names
  dsimp only
  induction entries with
  | nil => rfl
  | cons entry rest ih =>
    by_cases h : (entry.1 == name) = true
    · simp [insertEntry, h]
    · simp only [insertEntry, h, List.map_cons, List.any_cons, Bool.false_eq_true, if_false,
        Bool.false_or, List.cons_append, ih]

theorem different_iff_names {a : Attributes} :
    Different a.entries ↔ a.names.Pairwise fun m n => (m == n) = false := by
  rw [names, List.pairwise_map, Different]

theorem Different.insert {a : Attributes} (h : Different a.entries) (name : Name) (value : String) :
    Different (a.insert name value).entries := by
  rw [different_iff_names] at h ⊢
  rw [names_insert, contains_eq]
  split
  · simpa using h
  · rename_i hnew
    rw [List.pairwise_append]
    simp_all

/-- A map and all the insertions that made it. -/
structure Records (a : Attributes) (entries : List (Name × String)) : Prop where
  different : Different a.entries
  names : a.names = firstNames entries
  values : ∀ name, a.get? name = lastValue? entries name

theorem records_empty : Records empty [] := ⟨List.Pairwise.nil, rfl, fun _ => rfl⟩

variable {a b : Attributes} {entries : List (Name × String)}

theorem Records.insert (h : Records a entries) (entry : Name × String) :
    Records (a.insert entry.1 entry.2) (entries ++ [entry]) where
  different := h.different.insert entry.1 entry.2
  names := by
    have hknown : a.contains entry.1 = entries.any (·.1 == entry.1) := by
      rw [contains, h.values, isSome_lastValue?]
    rw [names_insert, firstNames_concat, h.names, hknown]
  values name := by
    rw [get?_insert, lastValue?_concat, h.values]

theorem records_ofList (entries : List (Name × String)) : Records (ofList entries) entries := by
  induction entries using List.reverseRecOn with
  | nil => exact records_empty
  | append_singleton entries entry ih =>
    rw [ofList_concat]
    exact ih.insert entry

/-! ### Maps that are equal -/

/-- Equal names in the same order, with the same values. -/
def Alike (a b : Attributes) : Prop :=
  Forall₂ (fun x y => (x.1 == y.1) = true ∧ x.2 = y.2) a.entries b.entries

theorem Alike.get? {a b : Attributes} (h : a.Alike b) (name : Name) :
    a.get? name = b.get? name := by
  obtain ⟨xs⟩ := a
  obtain ⟨ys⟩ := b
  unfold Attributes.Alike at h
  unfold Attributes.get?
  dsimp only at h ⊢
  induction h with
  | nil => rfl
  | @cons x y xs ys hxy _ ih =>
    have hname : (x.1 == name) = (y.1 == name) := BEq.congr_left hxy.1
    rw [List.find?_cons, List.find?_cons, ← hname]
    cases hx : (x.1 == name) with
    | true => exact congrArg some hxy.2
    | false => exact ih

theorem list_beq_iff {α : Type} [BEq α] {xs ys : List α} :
    (xs == ys) = true ↔ Forall₂ (fun x y => (x == y) = true) xs ys := by
  induction xs generalizing ys with
  | nil => cases ys <;> simp
  | cons x xs ih => cases ys <;> simp [ih]

theorem beq_iff_alike : (a == b) = true ↔ a.Alike b := by
  have hpair : ∀ x y : Name × String, (x == y) = true ↔ (x.1 == y.1) = true ∧ x.2 = y.2 := by
    intro x y
    rw [← beq_iff_eq (a := x.2), ← Bool.and_eq_true]
    rfl
  show (a.entries == b.entries) = true ↔ _
  simp only [list_beq_iff, hpair, Alike]

theorem get?_of_mem (h : Different entries) {entry : Name × String} (hmem : entry ∈ entries) :
    (Attributes.mk entries).get? entry.1 = some entry.2 := by
  induction entries with
  | nil => cases hmem
  | cons first rest ih =>
    obtain ⟨hfirst, hrest⟩ := List.pairwise_cons.1 h
    rcases List.mem_cons.1 hmem with rfl | hmem
    · simp [get?]
    · have hlater := ih hrest hmem
      simpa [get?, hfirst entry hmem] using hlater

/-- Where names are different, a map is known by their order and by what it has for each. -/
theorem beq_iff (ha : Different a.entries) (hb : Different b.entries) :
    (a == b) = true ↔ (a.names == b.names) = true ∧ ∀ name, a.get? name = b.get? name := by
  rw [beq_iff_alike, list_beq_iff, names, names, List.forall₂_map_left_iff,
    List.forall₂_map_right_iff]
  constructor
  · intro h
    exact ⟨h.imp fun _ _ hxy => hxy.1, h.get?⟩
  · rintro ⟨hnames, hvalues⟩
    rw [List.forall₂_iff_zip] at hnames
    refine List.forall₂_iff_zip.2 ⟨hnames.1, fun {x y} hpair => ?_⟩
    have hname := hnames.2 hpair
    obtain ⟨hx, hy⟩ := List.of_mem_zip hpair
    refine ⟨hname, Option.some.inj ?_⟩
    calc some x.2 = a.get? x.1 := (get?_of_mem ha hx).symm
      _ = b.get? x.1 := hvalues x.1
      _ = b.get? y.1 := b.get?_congr hname
      _ = some y.2 := get?_of_mem hb hy

theorem Records.beq_iff {xs ys : List (Name × String)} (h : Records a xs) (k : Records b ys) :
    (a == b) = true ↔ (firstNames xs == firstNames ys) = true ∧
      ∀ name, lastValue? xs name = lastValue? ys name := by
  rw [Attributes.beq_iff h.different k.different, h.names, k.names]
  simp only [h.values, k.values]

/-- Whatever entries a map is collected from and whatever is inserted afterwards, it records all of
these insertions, and maps are equal exactly if their insertions agree on the order of first names
and on the last value of every name. -/
theorem records_insertions (collected inserted : List (Name × String)) :
    Records ((ofList collected).insertAll inserted) (collected ++ inserted) ∧
    ∀ collected' inserted',
      ((ofList collected).insertAll inserted == (ofList collected').insertAll inserted') = true ↔
        (firstNames (collected ++ inserted) == firstNames (collected' ++ inserted')) = true ∧
          ∀ name, lastValue? (collected ++ inserted) name =
            lastValue? (collected' ++ inserted') name := by
  have hrecords : ∀ xs ys, Records ((ofList xs).insertAll ys) (xs ++ ys) := by
    intro xs ys
    rw [insertAll_ofList]
    exact records_ofList (xs ++ ys)
  exact ⟨hrecords _ _, fun _ _ => (hrecords _ _).beq_iff (hrecords _ _)⟩

example : (ofList [(⟨some "u", "x", some "p"⟩, "1"), (.plain "y", "2"),
    (⟨some "u", "x", some "q"⟩, "3")]).entries =
      [(⟨some "u", "x", some "p"⟩, "3"), (.plain "y", "2")] := by
  decide

/-! ### Insertions of different names -/

theorem firstNames_sublist (entries : List (Name × String)) :
    (firstNames entries).Sublist (entries.map (·.1)) := by
  have hall : entries.map (·.1) = entries.zipIdx.map (·.1.1) := by
    conv_lhs => rw [← List.zipIdx_map_fst 0 entries, List.map_map]
    rfl
  rw [hall]
  exact List.filter_sublist.map _

/-- Different names are kept with their values. -/
theorem entries_ofList (h : Different entries) : (ofList entries).entries = entries := by
  induction entries using List.reverseRecOn with
  | nil => rfl
  | append_singleton entries entry ih =>
    obtain ⟨hentries, -, hlast⟩ := List.pairwise_append.1 h
    rw [ofList_concat, insert, ih hentries]
    exact insertEntry_of_forall_ne fun earlier hearlier => hlast earlier hearlier entry (by simp)

/-- The entries are those inserted exactly if no name comes again. -/
theorem length_ofList_eq_iff {entries : List (Name × String)} :
    (ofList entries).entries.length = entries.length ↔ Different entries := by
  constructor
  · intro h
    have hrecords := records_ofList entries
    have hnames : firstNames entries = entries.map (·.1) := by
      apply (firstNames_sublist entries).eq_of_length
      rw [← hrecords.names, names, List.length_map, List.length_map, h]
    have hdifferent := different_iff_names.1 hrecords.different
    rw [hrecords.names, hnames, List.pairwise_map] at hdifferent
    exact hdifferent
  · intro h
    rw [entries_ofList h]

end StreamSelect.Attributes
