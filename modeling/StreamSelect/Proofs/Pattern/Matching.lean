import Mathlib.Logic.Function.Iterate
import Mathlib.Tactic.Tauto
import StreamSelect.Pattern

/-! What an expression matches. A match begins at one place of a text and ends at another; the search
over sets of places finds exactly the places where matches end. -/
namespace StreamSelect.Pattern

/-! ### Matches -/

/-- The character in front of a place. -/
def charBefore (text : List Char) : Nat → Option Char
  | 0 => none
  | place + 1 => text[place]?

/-- So many steps of a relation one after the other. -/
def Rounds (step : Nat → Nat → Prop) : Nat → Nat → Nat → Prop
  | 0, first, last => first = last
  | n + 1, first, last => ∃ middle, step first middle ∧ Rounds step n middle last

/-- A word stands in a text from one place to another. -/
def StandsAt (text word : List Char) (first last : Nat) : Prop :=
  last = first + word.length ∧ word <+: text.drop first

namespace Regex

/-- A match of an expression in a text begins at one place and ends at another. A loop takes its least
number of rounds, and then as many more as it may. -/
def Spans (text : List Char) : Regex → Nat → Nat → Prop
  | empty, first, last => first = last
  | .text word, first, last => StandsAt text word first last
  | one set _, first, last => last = first + 1 ∧ ∃ c, text[first]? = some c ∧ set.contains c = true
  | look test, first, last =>
    first = last ∧ test.holds (charBefore text first) text[first]? = true
  | seq a b, first, last => ∃ middle, a.Spans text first middle ∧ b.Spans text middle last
  | either a b, first, last => a.Spans text first last ∨ b.Spans text first last
  | oneOf words, first, last => ∃ word ∈ words, StandsAt text word first last
  | loop r least most _, first, last =>
    ∃ more, (∀ n ∈ most, more ≤ n - least) ∧ Rounds (r.Spans text) (least + more) first last
  | captured _ r, first, last => r.Spans text first last

end Regex

/-! ### Rounds -/

section Rounds

variable {step : Nat → Nat → Prop}

theorem rounds_add {n m first last : Nat} :
    Rounds step (n + m) first last ↔
      ∃ middle, Rounds step n first middle ∧ Rounds step m middle last := by
  induction n generalizing first with
  | zero => simp [Rounds]
  | succ n ih =>
    rw [Nat.add_right_comm, Rounds]
    simp only [ih, Rounds]
    constructor
    · rintro ⟨middle, hstep, other, hfirst, hlast⟩
      exact ⟨other, ⟨middle, hstep, hfirst⟩, hlast⟩
    · rintro ⟨other, ⟨middle, hstep, hfirst⟩, hlast⟩
      exact ⟨middle, hstep, other, hfirst, hlast⟩

theorem rounds_invariant {P : Nat → Nat → Prop} (hrefl : ∀ place, P place place)
    (htrans : ∀ a b c, P a b → P b c → P a c) (hstep : ∀ first last, step first last → P first last)
    {n first last : Nat} (h : Rounds step n first last) : P first last := by
  induction n generalizing first with
  | zero =>
    cases h
    exact hrefl _
  | succ n ih =>
    obtain ⟨middle, hfirst, hrest⟩ := h
    exact htrans first middle last (hstep first middle hfirst) (ih hrest)

/-- Rounds that lead forward need not be more than there are places to pass. -/
theorem exists_rounds_le (hforward : ∀ first last, step first last → first ≤ last)
    {n first last : Nat} (h : Rounds step n first last) :
    ∃ m ≤ last - first, Rounds step m first last := by
  induction n generalizing first with
  | zero => exact ⟨0, Nat.zero_le _, h⟩
  | succ n ih =>
    obtain ⟨middle, hfirst, hrest⟩ := h
    obtain ⟨m, hm, hrounds⟩ := ih hrest
    by_cases hstays : middle = first
    · subst hstays
      exact ⟨m, hm, hrounds⟩
    · have hle := hforward first middle hfirst
      have hlast := rounds_invariant Nat.le_refl (fun _ _ _ => Nat.le_trans) hforward hrest
      exact ⟨m + 1, by omega, middle, hfirst, hrounds⟩

end Rounds

namespace Regex

/-- Matches lead forward, and inside the text. -/
theorem spans_le {text : List Char} {r : Regex} {first last : Nat} (h : r.Spans text first last) :
    first ≤ last ∧ (first ≤ text.length → last ≤ text.length) := by
  have hword : ∀ {word : List Char} {first last : Nat}, StandsAt text word first last →
      first ≤ last ∧ (first ≤ text.length → last ≤ text.length) := by
    rintro word first last ⟨rfl, hprefix⟩
    have hlength := hprefix.length_le
    rw [List.length_drop] at hlength
    omega
  induction r generalizing first last with
  | empty =>
    cases h
    exact ⟨Nat.le_refl _, id⟩
  | text word => exact hword h
  | one set ascii =>
    obtain ⟨rfl, c, hc, -⟩ := h
    have hlt := (List.getElem?_eq_some_iff.1 hc).1
    omega
  | look test =>
    obtain ⟨rfl, -⟩ := h
    exact ⟨Nat.le_refl _, id⟩
  | seq a b iha ihb =>
    obtain ⟨middle, ha, hb⟩ := h
    have hfirst := iha ha
    have hlast := ihb hb
    exact ⟨Nat.le_trans hfirst.1 hlast.1, fun hle => hlast.2 (hfirst.2 hle)⟩
  | either a b iha ihb =>
    rcases h with h | h
    · exact iha h
    · exact ihb h
  | oneOf words =>
    obtain ⟨word, -, h⟩ := h
    exact hword h
  | loop r least most lazy ih =>
    obtain ⟨more, -, hrounds⟩ := h
    exact @rounds_invariant _ (fun first last =>
      first ≤ last ∧ (first ≤ text.length → last ≤ text.length)) (fun _ => ⟨Nat.le_refl _, id⟩)
      (fun _ _ _ ha hb => ⟨Nat.le_trans ha.1 hb.1, fun hle => hb.2 (ha.2 hle)⟩) (fun _ _ => ih) _ _ _ hrounds
  | captured number r ih => exact ih h

end Regex

/-! ### Places -/

theorem testBit_place (place i : Nat) : (1 <<< place).testBit i = decide (place = i) := by
  rw [Nat.one_shiftLeft, Nat.testBit_two_pow]

theorem testBit_allPlaces (length i : Nat) : (allPlaces length).testBit i = decide (i ≤ length) := by
  rw [allPlaces, Nat.one_shiftLeft, Nat.testBit_two_pow_sub_one, decide_eq_decide]
  exact Nat.lt_succ_iff

namespace Survey

theorem testBit_before {survey : Survey} {test : Char → Bool} {i : Nat} :
    (survey.before test).testBit i = true ↔
      ∃ entry ∈ survey, test entry.1 = true ∧ entry.2.testBit i = true := by
  have hfold : ∀ (survey : Survey) (found : Places),
      (survey.foldl (fun found entry => if test entry.1 then found ||| entry.2 else found)
        found).testBit i = true ↔
      found.testBit i = true ∨ ∃ entry ∈ survey, test entry.1 = true ∧ entry.2.testBit i = true := by
    intro survey
    induction survey with
    | nil => simp
    | cons entry survey ih =>
      intro found
      rw [List.foldl_cons, ih]
      simp only [List.mem_cons, exists_eq_or_imp]
      by_cases htest : test entry.1 = true
      · simp [htest, Nat.testBit_or, or_assoc]
      · simp [htest]
  have hstart := hfold survey 0
  simp only [Nat.zero_testBit, Bool.false_eq_true, false_or] at hstart
  exact hstart

theorem exists_mem_add {c : Char} {place : Nat} {survey : Survey} {P : Char → Places → Prop}
    (hor : ∀ d a b, P d (a ||| b) ↔ P d a ∨ P d b) :
    (∃ entry ∈ survey.add c place, P entry.1 entry.2) ↔
      P c (1 <<< place) ∨ ∃ entry ∈ survey, P entry.1 entry.2 := by
  induction survey with
  | nil => simp [add]
  | cons entry survey ih =>
    rw [add]
    split
    · rename_i hsame
      simp only [List.mem_cons, exists_eq_or_imp, hor, hsame]
      tauto
    · simp only [List.mem_cons, exists_eq_or_imp, ih]
      tauto

/-- The places before a character of a text are those where it stands. -/
theorem testBit_before_ofText {text : List Char} {test : Char → Bool} {i : Nat} :
    ((ofText text).before test).testBit i = true ↔ ∃ c, text[i]? = some c ∧ test c = true := by
  rw [testBit_before]
  have hor : ∀ (d : Char) (a b : Places), (test d = true ∧ (a ||| b).testBit i = true) ↔
      (test d = true ∧ a.testBit i = true) ∨ (test d = true ∧ b.testBit i = true) := by
    intro d a b
    rw [Nat.testBit_or, Bool.or_eq_true, and_or_left]
  have hfold : ∀ (read : List (Char × Nat)) (survey : Survey),
      (∃ entry ∈ read.foldl (fun survey entry => survey.add entry.1 entry.2) survey,
        test entry.1 = true ∧ entry.2.testBit i = true) ↔
      (∃ entry ∈ survey, test entry.1 = true ∧ entry.2.testBit i = true) ∨
        ∃ entry ∈ read, test entry.1 = true ∧ entry.2 = i := by
    intro read
    induction read with
    | nil => simp
    | cons entry read ih =>
      intro survey
      rw [List.foldl_cons, ih, @exists_mem_add entry.1 entry.2 survey
        (fun d places => test d = true ∧ places.testBit i = true) hor, testBit_place,
        decide_eq_true_eq]
      simp only [List.mem_cons, exists_eq_or_imp]
      rw [or_assoc, or_left_comm]
  have hstart := hfold text.zipIdx []
  simp only [List.not_mem_nil, false_and, exists_false, false_or] at hstart
  apply hstart.trans
  constructor
  · rintro ⟨⟨c, place⟩, hmem, htest, rfl⟩
    exact ⟨c, List.mem_zipIdx_iff_getElem?.1 hmem, htest⟩
  · rintro ⟨c, hc, htest⟩
    exact ⟨(c, i), List.mem_zipIdx_iff_getElem?.2 hc, htest, rfl⟩

end Survey

theorem testBit_toNat_shiftLeft (b : Bool) (place i : Nat) :
    (b.toNat <<< place).testBit i = (decide (place = i) && b) := by
  cases b with
  | true => rw [Bool.toNat_true, testBit_place, Bool.and_true]
  | false => simp

theorem testBit_places_of_lt {test : Look} {prev : Option Char} {place i : Nat} {text : List Char}
    (h : i < place) : (test.places prev place text).testBit i = false := by
  have hne : place ≠ i := by omega
  induction text generalizing prev place with
  | nil =>
    rw [Look.places, testBit_toNat_shiftLeft]
    simp [hne]
  | cons c text ih =>
    rw [Look.places, Nat.testBit_or, testBit_toNat_shiftLeft, ih (by omega) (by omega)]
    simp [hne]

/-- The places that a look finds are those where it holds. -/
theorem testBit_places {test : Look} {prev : Option Char} {place i : Nat} {text : List Char} :
    (test.places prev place text).testBit (place + i) = true ↔
      i ≤ text.length ∧
        test.holds (if i = 0 then prev else charBefore text i) text[i]? = true := by
  induction text generalizing prev place i with
  | nil =>
    rw [Look.places, testBit_toNat_shiftLeft]
    cases i with
    | zero => simp
    | succ i => simp
  | cons c text ih =>
    rw [Look.places, Nat.testBit_or, testBit_toNat_shiftLeft]
    cases i with
    | zero =>
      rw [Nat.add_zero, testBit_places_of_lt (Nat.lt_succ_self place)]
      simp
    | succ i =>
      have hnext := @ih (some c) (place + 1) i
      rw [Nat.add_assoc, Nat.add_comm 1 i] at hnext
      have hbefore : charBefore (c :: text) (i + 1) =
          if i = 0 then some c else charBefore text i := by
        cases i with
        | zero => rfl
        | succ i => rfl
      rw [show decide (place = place + (i + 1)) = false by simp, Bool.false_and, Bool.false_or,
        hnext, if_neg (Nat.succ_ne_zero i), hbefore, List.length_cons, List.getElem?_cons_succ,
        Nat.add_le_add_iff_right]

namespace Route

theorem iterate_eq (f : Places → Places) (n : Nat) (start : Places) :
    iterate f n start = f^[n] start := by
  induction n generalizing start with
  | zero => rfl
  | succ n ih =>
    rw [iterate, Function.iterate_succ_apply]
    split
    · rename_i hsame
      rw [hsame, Function.iterate_fixed hsame]
    · exact ih _

theorem spread_eq (f : Places → Places) (n : Nat) (start : Places) :
    spread f n start = (fun found => found ||| f found)^[n] start := by
  induction n generalizing start with
  | zero => rfl
  | succ n ih =>
    rw [spread, Function.iterate_succ_apply]
    split
    · rename_i hsame
      rw [hsame, Function.iterate_fixed hsame]
    · exact ih _

/-- A function on places takes each place on by a relation. -/
def Follows (length : Nat) (f : Places → Places) (step : Nat → Nat → Prop) : Prop :=
  ∀ start : Places, (∀ i, start.testBit i = true → i ≤ length) → ∀ j,
    (f start).testBit j = true ↔ ∃ i, start.testBit i = true ∧ step i j

variable {length : Nat} {f : Places → Places} {step : Nat → Nat → Prop}

theorem Follows.iterate (h : Follows length f step)
    (hinside : ∀ i j, step i j → i ≤ length → j ≤ length) (n : Nat) :
    Follows length (iterate f n) (Rounds step n) := by
  intro start hstart j
  rw [iterate_eq]
  induction n generalizing start with
  | zero => simp [Rounds]
  | succ n ih =>
    have hnext : ∀ i, (f start).testBit i = true → i ≤ length := by
      intro i hi
      obtain ⟨k, hk, hstep⟩ := (h start hstart i).1 hi
      exact hinside k i hstep (hstart k hk)
    rw [Function.iterate_succ_apply, ih _ hnext]
    constructor
    · rintro ⟨i, hi, hrounds⟩
      obtain ⟨k, hk, hstep⟩ := (h start hstart i).1 hi
      exact ⟨k, hk, i, hstep, hrounds⟩
    · rintro ⟨k, hk, i, hstep, hrounds⟩
      exact ⟨i, (h start hstart i).2 ⟨k, hk, hstep⟩, hrounds⟩

theorem Follows.spread (h : Follows length f step)
    (hinside : ∀ i j, step i j → i ≤ length → j ≤ length) (n : Nat) :
    Follows length (spread f n) (fun i j => ∃ m ≤ n, Rounds step m i j) := by
  intro start hstart j
  rw [spread_eq]
  induction n generalizing start with
  | zero => simp [Rounds]
  | succ n ih =>
    have hnext : ∀ i, (start ||| f start).testBit i = true → i ≤ length := by
      intro i hi
      rw [Nat.testBit_or, Bool.or_eq_true] at hi
      rcases hi with hi | hi
      · exact hstart i hi
      · obtain ⟨k, hk, hstep⟩ := (h start hstart i).1 hi
        exact hinside k i hstep (hstart k hk)
    rw [Function.iterate_succ_apply, ih _ hnext]
    simp only [Nat.testBit_or, Bool.or_eq_true]
    constructor
    · rintro ⟨i, hi | hi, m, hm, hrounds⟩
      · exact ⟨i, hi, m, by omega, hrounds⟩
      · obtain ⟨k, hk, hstep⟩ := (h start hstart i).1 hi
        exact ⟨k, hk, m + 1, by omega, i, hstep, hrounds⟩
    · rintro ⟨k, hk, m, hm, hrounds⟩
      cases m with
      | zero => exact ⟨k, .inl hk, 0, Nat.zero_le _, hrounds⟩
      | succ m =>
        obtain ⟨i, hstep, hrest⟩ := hrounds
        exact ⟨i, .inr ((h start hstart i).2 ⟨k, hk, hstep⟩), m, by omega, hrest⟩

theorem follows_stay (length : Nat) (places : Places) (P : Nat → Prop)
    (h : ∀ i ≤ length, places.testBit i = true ↔ P i) :
    Follows length ((stay places).ends length) (fun i j => i = j ∧ P i) := by
  intro start hstart j
  rw [testBit_ends_stay, Bool.and_eq_true]
  constructor
  · rintro ⟨hj, hplaces⟩
    exact ⟨j, hj, rfl, (h j (hstart j hj)).1 hplaces⟩
  · rintro ⟨i, hi, rfl, hP⟩
    exact ⟨hi, (h i (hstart i hi)).2 hP⟩

theorem follows_step (length : Nat) (places : Places) :
    Follows length ((Route.step places).ends length)
      (fun i j => j = i + 1 ∧ places.testBit i = true) := by
  intro start hstart j
  cases j with
  | zero =>
    rw [testBit_ends_step_zero]
    simp
  | succ j =>
    rw [testBit_ends_step_succ, Bool.and_eq_true]
    constructor
    · exact fun h => ⟨j, h.1, rfl, h.2⟩
    · rintro ⟨i, hi, hij, hplaces⟩
      obtain rfl : j = i := by omega
      exact ⟨hi, hplaces⟩

theorem Follows.comp {g : Places → Places} {step' : Nat → Nat → Prop} (hf : Follows length f step)
    (hg : Follows length g step') (hinside : ∀ i j, step i j → i ≤ length → j ≤ length) :
    Follows length (fun start => g (f start)) (fun i j => ∃ k, step i k ∧ step' k j) := by
  intro start hstart j
  have hmiddle : ∀ i, (f start).testBit i = true → i ≤ length := by
    intro i hi
    obtain ⟨k, hk, hstep⟩ := (hf start hstart i).1 hi
    exact hinside k i hstep (hstart k hk)
  rw [hg _ hmiddle]
  constructor
  · rintro ⟨k, hk, hstep⟩
    obtain ⟨i, hi, hfirst⟩ := (hf start hstart k).1 hk
    exact ⟨i, hi, k, hfirst, hstep⟩
  · rintro ⟨i, hi, k, hfirst, hstep⟩
    exact ⟨k, (hf start hstart k).2 ⟨i, hi, hfirst⟩, hstep⟩

theorem follows_either {length : Nat} {a b : Route} {step step' : Nat → Nat → Prop}
    (ha : Follows length (a.ends length) step) (hb : Follows length (b.ends length) step') :
    Follows length ((Route.either a b).ends length) (fun i j => step i j ∨ step' i j) := by
  intro start hstart j
  rw [testBit_ends_either, Bool.or_eq_true, ha start hstart, hb start hstart]
  simp only [and_or_left, exists_or]

theorem Follows.congr {length : Nat} {f : Places → Places} {step step' : Nat → Nat → Prop}
    (h : Follows length f step) (hstep : ∀ i j, i ≤ length → (step i j ↔ step' i j)) :
    Follows length f step' := by
  intro start hstart j
  rw [h start hstart]
  constructor
  · rintro ⟨i, hi, hij⟩
    exact ⟨i, hi, (hstep i j (hstart i hi)).1 hij⟩
  · rintro ⟨i, hi, hij⟩
    exact ⟨i, hi, (hstep i j (hstart i hi)).2 hij⟩

end Route

namespace Regex

open Route

theorem standsAt_nil {text : List Char} {first last : Nat} :
    StandsAt text [] first last ↔ first = last := by
  simp [StandsAt, eq_comm]

theorem standsAt_cons {text word : List Char} {c : Char} {first last : Nat} :
    StandsAt text (c :: word) first last ↔
      text[first]? = some c ∧ StandsAt text word (first + 1) last := by
  have hlength : last = first + (c :: word).length ↔ last = first + 1 + word.length := by
    rw [List.length_cons]
    omega
  have hprefix : c :: word <+: text.drop first ↔
      text[first]? = some c ∧ word <+: text.drop (first + 1) := by
    rw [← List.head?_drop, ← List.tail_drop]
    cases text.drop first with
    | nil => simp
    | cons d rest => simp [List.cons_prefix_cons, eq_comm]
  rw [StandsAt, hlength, hprefix, StandsAt]
  tauto

theorem follows_wordRoute (text word : List Char) :
    Follows text.length ((wordRoute text.length (.ofText text) word).ends text.length)
      (StandsAt text word) := by
  induction word with
  | nil =>
    refine Follows.congr (follows_stay text.length _ (fun i => i ≤ text.length) ?_) ?_
    · intro i hi
      simp [testBit_allPlaces]
    · intro i j hi
      simp [standsAt_nil, hi]
  | cons c word ih =>
    have hfirst := follows_step text.length ((Survey.ofText text).before (· == c))
    have hboth := Follows.comp hfirst ih <| by
      rintro i j ⟨rfl, hplaces⟩ hi
      obtain ⟨d, hd, -⟩ := Survey.testBit_before_ofText.1 hplaces
      exact (List.getElem?_eq_some_iff.1 hd).1
    apply Follows.congr hboth
    intro i j hi
    simp only [standsAt_cons, Survey.testBit_before_ofText, beq_iff_eq]
    constructor
    · rintro ⟨k, ⟨rfl, d, hd, rfl⟩, hrest⟩
      exact ⟨hd, hrest⟩
    · rintro ⟨hc, hrest⟩
      exact ⟨i + 1, ⟨rfl, c, hc, rfl⟩, hrest⟩

/-- The search on sets of places finds where matches end. -/
theorem follows_route (text : List Char) (r : Regex) :
    Follows text.length ((r.route text (.ofText text)).ends text.length) (r.Spans text) := by
  have hinside : ∀ (r : Regex) (i j : Nat), r.Spans text i j → i ≤ text.length → j ≤ text.length :=
    fun r i j h => (spans_le h).2
  induction r with
  | empty =>
    refine Follows.congr (follows_stay text.length _ (fun i => i ≤ text.length) ?_) ?_
    · intro i hi
      simp [testBit_allPlaces]
    · intro i j hi
      simp [Spans, hi]
  | text word => exact follows_wordRoute text word
  | one set ascii =>
    apply Follows.congr (follows_step text.length _)
    intro i j hi
    rw [Survey.testBit_before_ofText, Spans]
  | look test =>
    apply follows_stay
    intro i hi
    have hplaces := @testBit_places test none 0 i text
    rw [Nat.zero_add] at hplaces
    rw [hplaces]
    cases i with
    | zero => simp [charBefore]
    | succ i => simp [charBefore, hi]
  | seq a b iha ihb =>
    have hboth := Follows.comp iha ihb (hinside a)
    exact hboth
  | either a b iha ihb => exact follows_either iha ihb
  | oneOf words =>
    induction words with
    | nil =>
      apply Follows.congr (follows_step text.length 0)
      intro i j hi
      simp [Spans]
    | cons word words ih =>
      apply Follows.congr (follows_either (follows_wordRoute text word) ih)
      intro i j hi
      simp [Spans]
  | loop r least most lazy ih =>
    have hrounds := Follows.iterate ih (hinside r) least
    have hspread := Follows.spread ih (hinside r)
      (most.elim (text.length + 1) fun most => most - least)
    have hboth := Follows.comp hrounds hspread fun i j h =>
      (spans_le (show (loop r least (some least) lazy).Spans text i j from ⟨0, by simp, h⟩)).2
    have hends : ((loop r least most lazy).route text (.ofText text)).ends text.length =
        fun start => spread ((r.route text (.ofText text)).ends text.length)
          (most.elim (text.length + 1) fun most => most - least)
          (iterate ((r.route text (.ofText text)).ends text.length) least start) := by
      funext start
      cases most <;> rfl
    rw [hends]
    apply Follows.congr hboth
    intro i j hi
    constructor
    · rintro ⟨k, hk, more, hmore, hrest⟩
      refine ⟨more, ?_, rounds_add.2 ⟨k, hk, hrest⟩⟩
      rintro n hn
      cases hn
      exact hmore
    · rintro ⟨more, hmore, hall⟩
      obtain ⟨k, hk, hrest⟩ := rounds_add.1 hall
      cases most with
      | some n => exact ⟨k, hk, more, hmore n rfl, hrest⟩
      | none =>
        -- rounds that stay where they are can be left out
        obtain ⟨fewer, hfewer, hrounds⟩ := exists_rounds_le (fun _ _ h => (spans_le h).1) hrest
        have hspans : (loop r least none lazy).Spans text i j := ⟨more, hmore, hall⟩
        have hj := (spans_le hspans).2 hi
        refine ⟨k, hk, fewer, ?_, hrounds⟩
        rw [Option.elim_none]
        omega
  | captured number r ih => exact ih

/-- An expression occurs in a text exactly if it has a match in it. -/
theorem occursIn_iff {r : Regex} {value : String} :
    r.occursIn value = true ↔
      ∃ first last, first ≤ value.toList.length ∧ r.Spans value.toList first last := by
  have hall : ∀ i, (allPlaces value.toList.length).testBit i = true ↔ i ≤ value.toList.length := by
    intro i
    rw [testBit_allPlaces, decide_eq_true_eq]
  have hends := follows_route value.toList r _ fun i => (hall i).1
  rw [occursIn, bne_iff_ne]
  constructor
  · intro hne
    obtain ⟨last, hlast⟩ := Nat.exists_testBit_of_ne_zero hne
    obtain ⟨first, hfirst, hspans⟩ := (hends last).1 hlast
    exact ⟨first, last, (hall first).1 hfirst, hspans⟩
  · rintro ⟨first, last, hfirst, hspans⟩ hzero
    have hlast := (hends last).2 ⟨first, (hall first).2 hfirst, hspans⟩
    rw [hzero, Nat.zero_testBit] at hlast
    cases hlast

/-! ### Sequences -/

/-- Matches of several expressions one behind the other. -/
def SpansAll (text : List Char) : List Regex → Nat → Nat → Prop
  | [], first, last => first = last
  | r :: rest, first, last => ∃ middle, r.Spans text first middle ∧ SpansAll text rest middle last

theorem standsAt_append {text a b : List Char} {first last : Nat} :
    StandsAt text (a ++ b) first last ↔
      ∃ middle, StandsAt text a first middle ∧ StandsAt text b middle last := by
  induction a generalizing first with
  | nil => simp [standsAt_nil]
  | cons c a ih =>
    simp only [List.cons_append, standsAt_cons, ih]
    constructor
    · rintro ⟨hc, middle, ha, hb⟩
      exact ⟨middle, ⟨hc, ha⟩, hb⟩
    · rintro ⟨middle, ⟨hc, ha⟩, hb⟩
      exact ⟨hc, middle, ha, hb⟩

variable {text : List Char} {first last : Nat}

theorem spansAll_append {rs qs : List Regex} :
    SpansAll text (rs ++ qs) first last ↔
      ∃ middle, SpansAll text rs first middle ∧ SpansAll text qs middle last := by
  induction rs generalizing first with
  | nil => simp [SpansAll]
  | cons r rs ih =>
    simp only [List.cons_append, SpansAll, ih]
    constructor
    · rintro ⟨next, hr, middle, hrs, hqs⟩
      exact ⟨middle, ⟨next, hr, hrs⟩, hqs⟩
    · rintro ⟨middle, ⟨next, hr, hrs⟩, hqs⟩
      exact ⟨next, hr, middle, hrs, hqs⟩

theorem spansAll_singleton {r : Regex} : SpansAll text [r] first last ↔ r.Spans text first last := by
  simp [SpansAll]

theorem spans_ofParts {rs : List Regex} :
    (ofParts rs).Spans text first last ↔ SpansAll text rs first last := by
  induction rs generalizing first with
  | nil => rfl
  | cons r rs ih =>
    cases rs with
    | nil => rw [ofParts, spansAll_singleton]
    | cons q rs =>
      simp only [ofParts, Spans, SpansAll]
      simp only [ih, SpansAll]

theorem spansAll_parts {r : Regex} : SpansAll text r.parts first last ↔ r.Spans text first last := by
  induction r generalizing first with
  | seq a b iha ihb => simp only [parts, SpansAll, Spans, ihb]
  | empty => rfl
  | text => exact spansAll_singleton
  | one => exact spansAll_singleton
  | look => exact spansAll_singleton
  | either => exact spansAll_singleton
  | oneOf => exact spansAll_singleton
  | loop => exact spansAll_singleton
  | captured => exact spansAll_singleton

theorem spansAll_prepend {r : Regex} {rest : List Regex} :
    SpansAll text (prepend r rest) first last ↔ SpansAll text (r :: rest) first last := by
  unfold prepend
  split
  · simp only [SpansAll, Spans, standsAt_append]
    constructor
    · rintro ⟨next, ⟨middle, ha, hb⟩, hrest⟩
      exact ⟨middle, ha, next, hb, hrest⟩
    · rintro ⟨middle, ha, next, hb, hrest⟩
      exact ⟨next, ⟨middle, ha, hb⟩, hrest⟩
  · rfl

/-- A sequence matches what its parts match one behind the other. -/
theorem spans_sequence {rs : List Regex} :
    (sequence rs).Spans text first last ↔ SpansAll text rs first last := by
  have hfold : ∀ (rs : List Regex) {first : Nat},
      SpansAll text (rs.foldr prepend []) first last ↔ SpansAll text rs first last := by
    intro rs
    induction rs with
    | nil => exact Iff.rfl
    | cons r rs ih =>
      intro first
      rw [List.foldr_cons, spansAll_prepend]
      simp only [SpansAll, ih]
  have hparts : ∀ (rs : List Regex) {first : Nat},
      SpansAll text (rs.flatMap parts) first last ↔ SpansAll text rs first last := by
    intro rs
    induction rs with
    | nil => exact Iff.rfl
    | cons r rs ih =>
      intro first
      rw [List.flatMap_cons, spansAll_append]
      simp only [SpansAll, spansAll_parts, ih]
  rw [sequence, spans_ofParts, hfold, hparts]

/-- Between tests for the start and the end of a text an expression matches the whole text only. -/
theorem spans_framed {r : Regex} :
    (sequence [look .textStart, r, look .textEnd]).Spans text first last ∧ first ≤ text.length ↔
      first = 0 ∧ last = text.length ∧ r.Spans text 0 text.length := by
  have hstart : ∀ place ≤ text.length,
      Look.holds (charBefore text place) text[place]? .textStart = true ↔ place = 0 := by
    intro place hplace
    cases place with
    | zero => simp [Look.holds, charBefore]
    | succ place =>
      simp [Look.holds, charBefore]
      omega
  have hend : ∀ place, Look.holds (charBefore text place) text[place]? .textEnd = true ↔
      text.length ≤ place := by
    intro place
    simp [Look.holds]
  rw [spans_sequence]
  simp only [SpansAll, Spans, hend]
  constructor
  · rintro ⟨⟨_, ⟨rfl, hfirst⟩, middle, hspans, _, ⟨rfl, hlast⟩, rfl⟩, hle⟩
    obtain rfl := (hstart first hle).1 hfirst
    have hmiddle := (spans_le hspans).2 hle
    obtain rfl : middle = text.length := by omega
    exact ⟨rfl, rfl, hspans⟩
  · rintro ⟨rfl, rfl, hspans⟩
    exact ⟨⟨0, ⟨rfl, (hstart 0 (Nat.zero_le _)).2 rfl⟩, _, hspans, _, ⟨rfl, Nat.le_refl _⟩, rfl⟩,
      Nat.zero_le _⟩

/-- Between the two tests it occurs exactly where it matches the whole text. -/
theorem occursIn_framed {r : Regex} {value : String} :
    (sequence [look .textStart, r, look .textEnd]).occursIn value = true ↔
      r.Spans value.toList 0 value.toList.length := by
  rw [occursIn_iff]
  constructor
  · rintro ⟨first, last, hfirst, hspans⟩
    exact (spans_framed.1 ⟨hspans, hfirst⟩).2.2
  · intro hspans
    obtain ⟨hframed, hfirst⟩ := spans_framed.2 ⟨rfl, rfl, hspans⟩
    exact ⟨0, _, hfirst, hframed⟩

end Regex

end StreamSelect.Pattern
