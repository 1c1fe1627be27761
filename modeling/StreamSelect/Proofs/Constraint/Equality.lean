import StreamSelect.Constraint

/-! Equality of constraints. It is an equivalence, and equal constraints accept the same elements as
long as the filters of values do not look at how a name was qualified. -/
namespace StreamSelect

/-- Filters of values that see of a name what identifies it. -/
def Filters.IgnoreQualifiers (fs : Filters) : Prop :=
  ∀ f (a b : Name) value, (a == b) = true → fs.onValue f a value = fs.onValue f b value

theorem StartElement.attribute?_congr (e : StartElement) {a b : Name} (h : (a == b) = true) :
    e.attribute? a = e.attribute? b :=
  e.attributes.get?_congr h

namespace Constraint

mutual
theorem same_refl : ∀ c : Constraint, same c c = true
  | name n | present n => by simp [same]
  | equals a v n | includes a v n => by simp [same]
  | matching a p n => by simp [same, ValuePattern.beq_iff.2 rfl]
  | attributeFilter a f => by simp [same]
  | filter f => by simp [same]
  | all cs => by rw [same]; exact sameAll_refl cs

theorem sameAll_refl : ∀ cs : List Constraint, sameAll cs cs = true
  | [] => rfl
  | c :: cs => by rw [sameAll, same_refl c, sameAll_refl cs, Bool.and_self]
end

mutual
theorem same_symm : ∀ c d : Constraint, same c d = true → same d c = true
  | name a, d, h => by
    cases d <;> simp only [same, Bool.false_eq_true] at h ⊢
    exact BEq.symm h
  | present a, d, h => by
    cases d <;> simp only [same, Bool.false_eq_true] at h ⊢
    exact BEq.symm h
  | equals a v n, d, h => by
    cases d <;> simp only [same, Bool.false_eq_true, Bool.and_eq_true] at h ⊢
    exact ⟨⟨BEq.symm h.1.1, BEq.symm h.1.2⟩, BEq.symm h.2⟩
  | includes a v n, d, h => by
    cases d <;> simp only [same, Bool.false_eq_true, Bool.and_eq_true] at h ⊢
    exact ⟨⟨BEq.symm h.1.1, BEq.symm h.1.2⟩, BEq.symm h.2⟩
  | matching a p n, d, h => by
    cases d <;> simp only [same, Bool.false_eq_true, Bool.and_eq_true] at h ⊢
    exact ⟨⟨BEq.symm h.1.1, ValuePattern.beq_iff.2 (ValuePattern.beq_iff.1 h.1.2).symm⟩,
      BEq.symm h.2⟩
  | attributeFilter a f, d, h => by
    cases d <;> simp only [same, Bool.false_eq_true, Bool.and_eq_true] at h ⊢
    exact ⟨BEq.symm h.1, BEq.symm h.2⟩
  | filter f, d, h => by
    cases d <;> simp only [same, Bool.false_eq_true] at h ⊢
    exact BEq.symm h
  | all cs, d, h => by
    cases d <;> simp only [same, Bool.false_eq_true] at h ⊢
    exact sameAll_symm _ _ h

theorem sameAll_symm : ∀ cs ds : List Constraint, sameAll cs ds = true → sameAll ds cs = true
  | [], ds, h => by
    cases ds with
    | nil => rfl
    | cons => simp [sameAll] at h
  | c :: cs, ds, h => by
    cases ds with
    | nil => simp [sameAll] at h
    | cons d ds =>
      rw [sameAll, Bool.and_eq_true] at h ⊢
      exact ⟨same_symm _ _ h.1, sameAll_symm _ _ h.2⟩
end

mutual
theorem same_trans : ∀ b a c : Constraint, same a b = true → same b c = true → same a c = true
  | name b, a, c, h, k => by
    cases a <;> cases c <;> simp only [same, Bool.false_eq_true] at h k ⊢
    exact BEq.trans h k
  | present b, a, c, h, k => by
    cases a <;> cases c <;> simp only [same, Bool.false_eq_true] at h k ⊢
    exact BEq.trans h k
  | equals b v n, a, c, h, k => by
    cases a <;> cases c <;> simp only [same, Bool.false_eq_true, Bool.and_eq_true] at h k ⊢
    exact ⟨⟨BEq.trans h.1.1 k.1.1, BEq.trans h.1.2 k.1.2⟩, BEq.trans h.2 k.2⟩
  | includes b v n, a, c, h, k => by
    cases a <;> cases c <;> simp only [same, Bool.false_eq_true, Bool.and_eq_true] at h k ⊢
    exact ⟨⟨BEq.trans h.1.1 k.1.1, BEq.trans h.1.2 k.1.2⟩, BEq.trans h.2 k.2⟩
  | matching b p n, a, c, h, k => by
    cases a <;> cases c <;> simp only [same, Bool.false_eq_true, Bool.and_eq_true] at h k ⊢
    have hp := ValuePattern.beq_iff.1 h.1.2
    have hq := ValuePattern.beq_iff.1 k.1.2
    exact ⟨⟨BEq.trans h.1.1 k.1.1, ValuePattern.beq_iff.2 (hp.trans hq)⟩, BEq.trans h.2 k.2⟩
  | attributeFilter b f, a, c, h, k => by
    cases a <;> cases c <;> simp only [same, Bool.false_eq_true, Bool.and_eq_true] at h k ⊢
    exact ⟨BEq.trans h.1 k.1, BEq.trans h.2 k.2⟩
  | filter f, a, c, h, k => by
    cases a <;> cases c <;> simp only [same, Bool.false_eq_true] at h k ⊢
    exact BEq.trans h k
  | all bs, a, c, h, k => by
    cases a <;> cases c <;> simp only [same, Bool.false_eq_true] at h k ⊢
    exact sameAll_trans _ _ _ h k

theorem sameAll_trans : ∀ bs as cs : List Constraint, sameAll as bs = true →
    sameAll bs cs = true → sameAll as cs = true
  | [], as, cs, h, k => by
    cases as with
    | nil => exact k
    | cons => simp [sameAll] at h
  | b :: bs, as, cs, h, k => by
    cases as with
    | nil => simp [sameAll] at h
    | cons a as =>
      cases cs with
      | nil => simp [sameAll] at k
      | cons c cs =>
        rw [sameAll, Bool.and_eq_true] at h k ⊢
        exact ⟨same_trans _ _ _ h.1 k.1, sameAll_trans _ _ _ h.2 k.2⟩
end

instance : EquivBEq Constraint where
  rfl := same_refl _
  symm h := same_symm _ _ h
  trans h k := same_trans _ _ _ h k

theorem isTrivial_iff {c : Constraint} : c.isTrivial = true ↔ c = .all [] := by
  unfold isTrivial
  split
  · simp
  · rename_i h
    simpa using h

theorem isTrivial_congr {a b : Constraint} (h : (a == b) = true) : a.isTrivial = b.isTrivial := by
  have hab : same a b = true := h
  cases a <;> cases b <;> simp only [same, Bool.false_eq_true] at hab <;>
    try rfl
  rename_i as bs
  cases as <;> cases bs <;> simp_all [sameAll, isTrivial]

mutual
/-- Equal constraints accept the same elements. -/
theorem holds_of_same {fs : Filters} (hf : fs.IgnoreQualifiers) (e : StartElement) :
    ∀ a b : Constraint, same a b = true → a.holds fs e = b.holds fs e
  | name a, b, h => by
    cases b <;> simp only [same, Bool.false_eq_true] at h
    exact BEq.congr_right h
  | present a, b, h => by
    cases b <;> simp only [same, Bool.false_eq_true] at h
    rw [holds, holds, e.attribute?_congr h]
  | equals a v n, b, h => by
    cases b <;> simp only [same, Bool.false_eq_true, Bool.and_eq_true, beq_iff_eq] at h
    rw [holds, holds, e.attribute?_congr h.1.1, h.1.2, h.2]
  | includes a v n, b, h => by
    cases b <;> simp only [same, Bool.false_eq_true, Bool.and_eq_true, beq_iff_eq] at h
    rw [holds, holds, e.attribute?_congr h.1.1, h.1.2, h.2]
  | matching a p n, b, h => by
    cases b <;> simp only [same, Bool.false_eq_true, Bool.and_eq_true, beq_iff_eq] at h
    rw [holds, holds, e.attribute?_congr h.1.1, ValuePattern.beq_iff.1 h.1.2, h.2]
  | attributeFilter a f, b, h => by
    cases b <;> simp only [same, Bool.false_eq_true, Bool.and_eq_true, beq_iff_eq] at h
    rw [holds, holds, e.attribute?_congr h.1, h.2]
    congr 1
    funext value
    exact hf _ _ _ value h.1
  | filter f, b, h => by
    cases b <;> simp only [same, Bool.false_eq_true, beq_iff_eq] at h
    rw [h]
  | all as, b, h => by
    cases b <;> simp only [same, Bool.false_eq_true] at h
    rw [holds, holds]
    exact holdsAll_of_sameAll hf e _ _ h

theorem holdsAll_of_sameAll {fs : Filters} (hf : fs.IgnoreQualifiers) (e : StartElement) :
    ∀ as bs : List Constraint, sameAll as bs = true → holdsAll fs e as = holdsAll fs e bs
  | [], bs, h => by
    cases bs with
    | nil => rfl
    | cons => simp [sameAll] at h
  | a :: as, bs, h => by
    cases bs with
    | nil => simp [sameAll] at h
    | cons b bs =>
      rw [sameAll, Bool.and_eq_true] at h
      rw [holdsAll, holdsAll, holds_of_same hf e _ _ h.1, holdsAll_of_sameAll hf e _ _ h.2]
end

theorem holds_congr {fs : Filters} (hf : fs.IgnoreQualifiers) (e : StartElement) {a b : Constraint}
    (h : (a == b) = true) : a.holds fs e = b.holds fs e :=
  holds_of_same hf e a b h

end Constraint
end StreamSelect
