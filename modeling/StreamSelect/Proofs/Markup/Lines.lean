import StreamSelect.Markup.LineTracker
import Mathlib.Data.List.Induction

/-! Places against a direct count. A tracker may be led through its text by offsets in any order: it
stays where it is furthest, and the place it tells is the one counted from the beginning of the text. -/
namespace StreamSelect.Markup

/-! ### Counting items -/

section

variable {α : Type} (feeds counts : α → Bool)

/-- Line and column after one more item of a text: a feed begins a line, and of the other items
those that count take a column. -/
def countItem (place : Nat × Nat) (a : α) : Nat × Nat :=
  if feeds a then (min (place.1 + 1) maxCount, 1)
  else if counts a then (place.1, min (place.2 + 1) maxCount)
  else place

/-- In a text that fits, no count is cut off: the line is the number of feeds, the column that of the
counting items since the last of them. -/
theorem foldl_countItem {text : List α} (h : text.length < maxCount) :
    text.foldl (countItem feeds counts) (1, 1) =
      (1 + text.countP feeds, 1 + (text.reverse.takeWhile (!feeds ·)).countP counts) := by
  induction text using List.reverseRecOn with
  | nil => rfl
  | append_singleton text a ih =>
    rw [List.length_append, List.length_singleton] at h
    have hlines := List.countP_le_length (p := feeds) (l := text)
    have hcolumn := (List.takeWhile_sublist (!feeds ·) (l := text.reverse)).length_le
    have hcounted := List.countP_le_length (p := counts) (l := text.reverse.takeWhile (!feeds ·))
    rw [List.length_reverse] at hcolumn
    rw [List.foldl_append, ih (by omega), List.foldl_cons, List.foldl_nil, countItem]
    split
    · rename_i hfeed
      simp [hfeed]
      omega
    · rename_i hother
      split
      · rename_i hcount
        simp [hother, hcount]
        omega
      · rename_i hskip
        simp [hother, hskip]

end

/-! ### Bytes -/

namespace LineTracker

/-- A byte that continues no character. -/
def beginsCharacter (b : UInt8) : Bool := b.toNat < 128 || 192 ≤ b.toNat

theorem isContinuation_eq (b : UInt8) : isContinuation b = !beginsCharacter b := by
  have hall : ∀ n < 256, isContinuation (UInt8.ofNat n) = !beginsCharacter (UInt8.ofNat n) := by
    decide +kernel
  have h := hall b.toNat b.toNat_lt
  rwa [UInt8.ofNat_toNat] at h

theorem count_eq : count = countItem (· == 10) beginsCharacter := by
  funext place b
  rw [count, countItem, isContinuation_eq]
  by_cases hfeed : b = 10
  · simp [hfeed]
  · cases beginsCharacter b <;> simp [hfeed]

/-- The place of an offset, counted directly: the line feeds in front of it, and the bytes that begin
a character between the last of these, or the beginning of the text, and the offset. -/
def placeOf (bytes : List UInt8) (offset : Nat) : Location where
  line := 1 + (bytes.take offset).count 10
  column := 1 + ((bytes.take offset).reverse.takeWhile (· != 10)).countP beginsCharacter
  offset := offset

/-! ### Trackers -/

/-- What a tracker tells is counted from the beginning of its text, however it came there. -/
structure Counted (t : LineTracker) : Prop where
  within : t.offset ≤ t.bytes.size
  place : (t.line, t.column) = (t.bytes.toList.take t.offset).foldl count (1, 1)

theorem counted_ofBytes (bytes : Array UInt8) : (ofBytes bytes).Counted := ⟨Nat.zero_le _, rfl⟩

variable {t : LineTracker}

theorem Counted.advance (h : t.Counted) (goal : Nat) : (t.advance goal).Counted := by
  unfold LineTracker.advance
  split
  · rename_i hlater
    refine ⟨Nat.min_le_right _ _, ?_⟩
    set next := min goal t.bytes.size
    have hsplit : t.bytes.toList.take next =
        t.bytes.toList.take t.offset ++ (t.bytes.extract t.offset next).toList := by
      have hnext : t.offset + (next - t.offset) = next := by omega
      rw [Array.toList_extract, List.extract_eq_take_drop, ← List.take_add, hnext]
    show t.placeAt next = _
    rw [hsplit, List.foldl_append, ← h.place, placeAt, Array.foldl_toList]
  · exact h

/-- Two trackers of one text that have come equally far are the same. -/
theorem Counted.eq_of_offset {u : LineTracker} (ht : t.Counted) (hu : u.Counted)
    (hbytes : t.bytes = u.bytes) (hoffset : t.offset = u.offset) : t = u := by
  have hplace : (t.line, t.column) = (u.line, u.column) := by
    rw [ht.place, hu.place, hbytes, hoffset]
  cases t
  cases u
  simp_all

theorem Counted.location (h : t.Counted) (hsize : t.bytes.size < maxCount) :
    t.location = placeOf t.bytes.toList t.offset := by
  have hlength : (t.bytes.toList.take t.offset).length < maxCount := by
    simp
    omega
  have hplace := h.place
  rw [count_eq, foldl_countItem _ _ hlength, Prod.mk.injEq] at hplace
  simp [LineTracker.location, placeOf, hplace, List.count, bne]

/-! ### Runs of offsets -/

/-- The places that a tracker tells at one offset after the other. -/
def locations (t : LineTracker) : List Nat → List Location
  | [] => []
  | goal :: goals => (t.advance goal).location :: (t.advance goal).locations goals

theorem Counted.foldl_advance (h : t.Counted) (goals : List Nat) :
    (goals.foldl LineTracker.advance t).Counted := by
  induction goals generalizing t with
  | nil => exact h
  | cons goal goals ih => exact ih (h.advance goal)

@[simp] theorem bytes_foldl_advance (t : LineTracker) (goals : List Nat) :
    (goals.foldl advance t).bytes = t.bytes := by
  induction goals generalizing t with
  | nil => rfl
  | cons goal goals ih => simp [ih]

theorem offset_foldl_advance (t : LineTracker) (goals : List Nat) :
    (goals.foldl advance t).offset = max t.offset (min t.bytes.size (goals.foldl max 0)) := by
  induction goals using List.reverseRecOn with
  | nil => simp
  | append_singleton goals goal ih =>
    simp [ih]
    omega

theorem locations_eq (t : LineTracker) (goals : List Nat) :
    t.locations goals = (List.range goals.length).map fun k =>
      ((goals.take (k + 1)).foldl advance t).location := by
  induction goals generalizing t with
  | nil => rfl
  | cons goal goals ih =>
    simp [locations, ih, List.range_succ_eq_map]

/-- Whatever the order of the offsets, the place told at each is that of the largest so far, or of the
end of the text if this comes first; and a run of offsets leaves a tracker as the largest alone does. -/
theorem locations_of_offsets {bytes : Array UInt8} (hsize : bytes.size < maxCount)
    (goals : List Nat) :
    ((ofBytes bytes).locations goals = (List.range goals.length).map fun k =>
      placeOf bytes.toList (min bytes.size ((goals.take (k + 1)).foldl max 0))) ∧
    goals.foldl advance (ofBytes bytes) = (ofBytes bytes).advance (goals.foldl max 0) := by
  have hcounted := counted_ofBytes bytes
  constructor
  · rw [locations_eq]
    apply List.map_congr_left
    intro k _
    have hrun := hcounted.foldl_advance (goals.take (k + 1))
    rw [hrun.location (by simpa [ofBytes] using hsize), bytes_foldl_advance, offset_foldl_advance]
    simp [ofBytes]
  · apply (hcounted.foldl_advance goals).eq_of_offset (hcounted.advance _)
    · simp
    · rw [offset_foldl_advance, advance_offset, Nat.min_comm]

/-- Two lines with a character of two bytes in the second, and a line feed behind it. -/
def accentedBytes : Array UInt8 := #[97, 10, 195, 169, 98, 10, 99]

/-- The first offset lies inside the character, the second before it, the third behind the end. -/
theorem locations_accentedBytes :
    accentedBytes.size < maxCount ∧
      (ofBytes accentedBytes).locations [3, 1, 40, 5] =
        [⟨2, 2, 3⟩, ⟨2, 2, 3⟩, ⟨3, 2, 7⟩, ⟨3, 2, 7⟩] ∧
      [3, 1, 40, 5].foldl advance (ofBytes accentedBytes) = (ofBytes accentedBytes).advance 40 := by
  have hsize : accentedBytes.size < maxCount := by decide
  obtain ⟨hplaces, hlast⟩ := locations_of_offsets hsize [3, 1, 40, 5]
  refine ⟨hsize, ?_, hlast⟩
  rw [hplaces]
  decide

end LineTracker
end StreamSelect.Markup
