/-! Cutting text: at a mark, after an expected text, and the number of bytes a text takes. -/
namespace StreamSelect.Text

/-- The rest after a text that must come first. -/
def after? : List Char → List Char → Option (List Char)
  | [], text => some text
  | _ :: _, [] => none
  | e :: expected, c :: text => if e = c then after? expected text else none

/-- The text before the first occurrence of a mark, and the rest after it. -/
def splitAt? (mark : List Char) : List Char → Option (List Char × List Char)
  | [] => none
  | c :: text =>
    match after? mark (c :: text) with
    | some rest => some ([], rest)
    | none => (splitAt? mark text).map fun (before, rest) => (c :: before, rest)

def dropTrailing (p : Char → Bool) (text : List Char) : List Char :=
  (text.reverse.dropWhile p).reverse

def byteLength (text : List Char) : Nat := text.foldl (fun n c => n + c.utf8Size) 0

theorem append_after? {expected text rest : List Char} (h : after? expected text = some rest) :
    expected ++ rest = text := by
  fun_induction after? expected text with
  | case1 => simp_all
  | case2 => simp at h
  | case3 c expected text ih => simp [ih h]
  | case4 => simp at h

theorem append_splitAt? {mark text before rest : List Char}
    (h : splitAt? mark text = some (before, rest)) : before ++ mark ++ rest = text := by
  induction text generalizing before rest with
  | nil => simp [splitAt?] at h
  | cons c text ih =>
    rw [splitAt?] at h
    split at h
    · rename_i found heq
      obtain ⟨rfl, rfl⟩ : [] = before ∧ found = rest := by simpa using h
      simpa using append_after? heq
    · simp only [Option.map_eq_some_iff, Prod.mk.injEq, Prod.exists] at h
      obtain ⟨b, r, hs, rfl, rfl⟩ := h
      simp [← ih hs]

theorem after?_append (mark rest : List Char) : after? mark (mark ++ rest) = some rest := by
  induction mark with
  | nil => rw [List.nil_append, after?]
  | cons c mark ih => simp [after?, ih]

/-- A mark is found where its first character comes first. -/
theorem splitAt?_append {mark inside rest : List Char} {c : Char} (h : c ∉ inside) :
    splitAt? (c :: mark) (inside ++ (c :: mark ++ rest)) = some (inside, rest) := by
  induction inside with
  | nil =>
    rw [List.nil_append, List.cons_append, splitAt?, ← List.cons_append, after?_append]
  | cons d inside ih =>
    simp only [List.mem_cons, not_or] at h
    have hother : after? (c :: mark) (d :: (inside ++ (c :: mark ++ rest))) = none := by
      rw [after?, if_neg h.1]
    rw [List.cons_append, splitAt?, hother, ih h.2]
    rfl

end StreamSelect.Text
