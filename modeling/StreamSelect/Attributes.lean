import StreamSelect.Name

/-! Attributes of one element in document order. A name occurs once: writing it again replaces the
value and keeps the place and the name first written. -/
namespace StreamSelect

structure Attributes where
  entries : List (Name × String)
  deriving Repr, Inhabited

namespace Attributes

def empty : Attributes := ⟨[]⟩

def insertEntry (name : Name) (value : String) : List (Name × String) → List (Name × String)
  | [] => [(name, value)]
  | (n, v) :: rest => if n == name then (n, value) :: rest else (n, v) :: insertEntry name value rest

def insert (a : Attributes) (name : Name) (value : String) : Attributes :=
  ⟨insertEntry name value a.entries⟩

def get? (a : Attributes) (name : Name) : Option String :=
  (a.entries.find? fun entry => entry.1 == name).map (·.2)

def contains (a : Attributes) (name : Name) : Bool := (a.get? name).isSome

def size (a : Attributes) : Nat := a.entries.length

def isEmpty (a : Attributes) : Bool := a.entries.isEmpty

/-- Inserts the entries one by one. -/
def ofList (entries : List (Name × String)) : Attributes :=
  entries.foldl (fun a entry => a.insert entry.1 entry.2) empty

/-- Equal entries in equal order. -/
instance : BEq Attributes := ⟨fun a b => a.entries == b.entries⟩

@[simp] theorem get?_empty (name : Name) : empty.get? name = none := rfl

theorem get?_congr (a : Attributes) {m n : Name} (h : (m == n) = true) : a.get? m = a.get? n := by
  unfold get?
  congr 2
  funext entry
  exact BEq.congr_right h

theorem get?_insert (a : Attributes) (name other : Name) (value : String) :
    (a.insert name value).get? other = if name == other then some value else a.get? other := by
  obtain ⟨entries⟩ := a
  simp only [insert, get?]
  induction entries with
  | nil => by_cases h : name == other <;> simp [insertEntry, h]
  | cons entry rest ih =>
    obtain ⟨n, v⟩ := entry
    by_cases hn : n == name
    · have hs : (n == other) = (name == other) := BEq.congr_left hn
      by_cases ho : name == other <;> simp [insertEntry, hn, hs, ho]
    · simp only [insertEntry, hn, Bool.false_eq_true, ↓reduceIte, List.find?_cons]
      by_cases ho : n == other
      · have hname : (name == other) = false := by
          by_cases h : (name == other) = true
          · exact absurd (BEq.trans ho (BEq.symm h)) hn
          · simpa using h
        simp [ho, hname]
      · simpa [ho] using ih

end Attributes
end StreamSelect
