import StreamSelect.Pattern.Engine
import StreamSelect.Error

/-! Patterns for whole attribute values. -/
namespace StreamSelect

namespace Pattern

/-- The text of a pattern between the tests for the start and the end of the value. -/
def framed (source : String) : String := "^(?:" ++ source ++ ")$"

end Pattern

/-- A pattern as written, with the expression its framed text stands for, whose automata have room. -/
structure ValuePattern where
  source : String
  regex : Pattern.Regex
  parsed : Pattern.Regex.parse? (Pattern.framed source) = some regex
  fits : regex.isOversized = false

namespace ValuePattern

/-- Refuses what is no expression between the frames, and what takes too much room. -/
def compile (source : String) : Except Error ValuePattern :=
  match h : Pattern.Regex.parse? (Pattern.framed source) with
  | some regex =>
    if fits : regex.isOversized = false then .ok ⟨source, regex, h, fits⟩
    else .error (.configuration (.invalidPattern source))
  | none => .error (.configuration (.invalidPattern source))

def accepts (p : ValuePattern) (value : String) : Bool := p.regex.occursIn value

/-- Patterns are told apart by what is written. -/
instance : BEq ValuePattern := ⟨fun a b => a.source == b.source⟩

theorem eq_of_source_eq {a b : ValuePattern} (h : a.source = b.source) : a = b := by
  obtain ⟨s, r, hr, _⟩ := a
  obtain ⟨t, q, hq, _⟩ := b
  obtain rfl : s = t := h
  obtain rfl : r = q := Option.some.inj (hr.symm.trans hq)
  rfl

theorem beq_iff {a b : ValuePattern} : (a == b) = true ↔ a = b := by
  change (a.source == b.source) = true ↔ a = b
  rw [beq_iff_eq]
  exact ⟨eq_of_source_eq, fun h => h ▸ rfl⟩

def describe (p : ValuePattern) : String := "/" ++ p.source ++ "/"

end ValuePattern
end StreamSelect
