import StreamSelect.Constraint
import StreamSelect.Proofs.Pattern.Engine

/-! Patterns for whole values: which texts are taken, and what values a pattern accepts. -/
namespace StreamSelect

open Pattern

namespace ValuePattern

theorem compile_eq_ok {source : String} {p : ValuePattern} :
    compile source = .ok p ↔ p.source = source := by
  constructor
  · intro h
    unfold compile at h
    split at h
    · split at h
      · cases h
        rfl
      · cases h
    · cases h
  · rintro rfl
    unfold compile
    split
    · rename_i regex hparsed
      obtain rfl : regex = p.regex := Option.some.inj (hparsed.symm.trans p.parsed)
      rw [dif_pos p.fits]
    · rename_i hparsed
      rw [p.parsed] at hparsed
      cases hparsed

theorem exists_compile {source : String} : (∃ p, compile source = .ok p) ↔
    ∃ q, Regex.parse? (framed source) = some q ∧ q.isOversized = false := by
  simp only [compile_eq_ok]
  constructor
  · rintro ⟨p, rfl⟩
    exact ⟨p.regex, p.parsed, p.fits⟩
  · rintro ⟨q, hparsed, hfits⟩
    exact ⟨⟨source, q, hparsed, hfits⟩, rfl⟩

theorem compile_cases (source : String) : (∃ p, compile source = .ok p) ∨
    compile source = .error (.configuration (.invalidPattern source)) := by
  unfold compile
  split
  · split
    · exact .inl ⟨_, rfl⟩
    · exact .inr rfl
  · exact .inr rfl

/-- What a pattern accepts, where its text stands for an expression by itself. -/
theorem accepts_iff {p : ValuePattern} {t : Tree} {r : Regex} {m : Modes}
    (hread : Tree.read? p.source = some t) (hmeaning : t.meaning {} = some (r, m)) (value : String) :
    p.accepts value = true ↔ r.Spans value.toList 0 value.toList.length := by
  have hregex := ((engineLaws.framed hread hmeaning p.regex).1 p.parsed).2
  rw [accepts, hregex, engineLaws.whole]

/-- What a text gives as a pattern for whole values, and for which ones. A text that stands for an
expression by itself is taken exactly if there is room for the frame, and then accepts what the
expression matches from the start to the end. Any other text is taken only if a parenthesis of it
closes the frame. Both signs of the constraint are declared together or are refused as a wrong
configuration, and of each element one of them holds. -/
theorem compile_wholeValue (source : String) :
    (∀ t r m, Tree.read? source = some t → t.meaning {} = some (r, m) →
      ((∃ p, compile source = .ok p) ↔ LeavesRoom source t ∧ r.framed.isOversized = false) ∧
      ∀ p, compile source = .ok p → ∀ value,
        p.accepts value = true ↔ r.Spans value.toList 0 value.toList.length) ∧
    (Regex.parse? source = none → (∃ p, compile source = .ok p) → ClosesFrame source) ∧
    ∀ key, (∃ p, compile source = .ok p ∧
        (∀ negated, Constraint.ofPattern key source negated = .ok (.matching key p negated)) ∧
        ∀ fs e, Constraint.holds fs e (.matching key p true) =
          !Constraint.holds fs e (.matching key p false)) ∨
      ∀ negated, Constraint.ofPattern key source negated =
        .error (.configuration (.invalidPattern source)) := by
  refine ⟨?_, ?_, ?_⟩
  · intro t r m hread hmeaning
    constructor
    · simp only [exists_compile, engineLaws.framed hread hmeaning]
      constructor
      · rintro ⟨q, ⟨hroom, rfl⟩, hfits⟩
        exact ⟨hroom, hfits⟩
      · rintro ⟨hroom, hfits⟩
        exact ⟨r.framed, ⟨hroom, rfl⟩, hfits⟩
    · intro p hp value
      obtain rfl := compile_eq_ok.1 hp
      exact accepts_iff hread hmeaning value
  · rintro hnone hcompile
    obtain ⟨q, hparsed, _⟩ := exists_compile.1 hcompile
    exact engineLaws.closes hparsed hnone
  · intro key
    rcases compile_cases source with ⟨p, hp⟩ | herror
    · left
      refine ⟨p, hp, ?_, ?_⟩
      · intro negated
        rw [Constraint.ofPattern, hp]
        rfl
      · intro fs e
        simp only [Constraint.holds, Constraint.valueTest]
        cases (e.attribute? key).any p.accepts <;> rfl
    · right
      intro negated
      rw [Constraint.ofPattern, herror]
      rfl

/-- Of two words the whole value is one, and nothing is before or behind it. -/
theorem accepts_words : (∃ p, compile "a|bc" = .ok p) ∧ ∀ p, compile "a|bc" = .ok p →
    ∀ value, p.accepts value = true ↔
      (Regex.oneOf [['a'], ['b', 'c']]).Spans value.toList 0 value.toList.length := by
  have hword := (compile_wholeValue "a|bc").1
    (.alternation [.letter ⟨'a', false⟩, .concat [.letter ⟨'b', false⟩, .letter ⟨'c', false⟩]])
    (.oneOf [['a'], ['b', 'c']]) {} rfl rfl
  refine ⟨hword.1.2 ⟨⟨?_, ?_⟩, ?_⟩, hword.2⟩
  · rfl
  · decide
  · rfl

/-- A text that is no expression is taken, as its parenthesis closes the frame's group, and a value
matches that only begins with what is before it. -/
theorem accepts_closedFrame : Regex.parse? "a)|(?:b" = none ∧
    ∃ p, compile "a)|(?:b" = .ok p ∧ p.accepts "ax" = true := by
  refine ⟨rfl, ⟨"a)|(?:b", .either (.seq (.look .textStart) (.text ['a']))
    (.seq (.text ['b']) (.look .textEnd)), ?_, ?_⟩, compile_eq_ok.2 rfl, ?_⟩
  · rfl
  · rfl
  · rfl

end ValuePattern
end StreamSelect
