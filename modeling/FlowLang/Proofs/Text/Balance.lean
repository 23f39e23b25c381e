import FlowLang.Proofs.Text.Basic

/-!
# Balanced texts

A text is balanced in two characters when it opens as often as it closes and never closes what is not open.
-/

namespace FlowLang.Text

variable {left right : Char}

/-- How many more times a text opens than it closes. -/
def surplus (left right : Char) (t : Text) : Int :=
  t.count left - t.count right

/-- No part from the start closes more than it opens, and the whole closes all that it opens. -/
structure Balanced (left right : Char) (t : Text) : Prop where
  nonneg : ∀ p, p <+: t → 0 ≤ surplus left right p
  total : t.count left = t.count right

@[simp] theorem surplus_nil : surplus left right [] = 0 := rfl

theorem surplus_append (a b : Text) : surplus left right (a ++ b) = surplus left right a + surplus left right b := by
  simp only [surplus, List.count_append, Int.natCast_add]
  omega

theorem Balanced.surplus_eq {t : Text} (h : Balanced left right t) : surplus left right t = 0 := by
  simp [surplus, h.total]

theorem Balanced.nil : Balanced left right [] := by
  refine ⟨?_, rfl⟩
  intro p hp
  rw [List.prefix_nil.mp hp]
  exact Int.le_refl _

theorem Balanced.append {a b : Text} (ha : Balanced left right a) (hb : Balanced left right b) :
    Balanced left right (a ++ b) := by
  refine ⟨?_, by rw [List.count_append, List.count_append, ha.total, hb.total]⟩
  rintro p ⟨r, hr⟩
  rcases List.append_eq_append_iff.mp hr with ⟨q, hq, _⟩ | ⟨q, rfl, hq⟩
  · exact ha.nonneg p ⟨q, hq.symm⟩
  · rw [surplus_append, ha.surplus_eq, Int.zero_add]
    exact hb.nonneg q ⟨r, hq.symm⟩

theorem Balanced.enclose {t : Text} (hne : left ≠ right) (h : Balanced left right t) :
    Balanced left right (left :: (t ++ [right])) := by
  have hleft : surplus left right [left] = 1 := by simp [surplus, hne]
  have hright : surplus left right [right] = -1 := by simp [surplus, hne.symm]
  refine ⟨?_, by simp [h.total, hne, hne.symm]⟩
  intro p hp
  rcases List.prefix_cons_iff.mp hp with rfl | ⟨q, rfl, hq⟩
  · exact Int.le_refl _
  · have hcons : surplus left right (left :: q) = 1 + surplus left right q := by
      rw [← List.singleton_append, surplus_append, hleft]
    rw [hcons]
    rcases List.prefix_concat_iff.mp hq with rfl | hq
    · rw [surplus_append, h.surplus_eq, hright]
      decide
    · have := h.nonneg q hq
      omega

/-! ## Growing texts -/

/-- The second text is the first with a balanced text behind it. -/
def Grows (left right : Char) (a b : Text) : Prop :=
  ∃ w, Balanced left right w ∧ b = a ++ w

/-- The second text is the first with a balanced text behind it and, after this, one that is still open. -/
def GrowsOpen (left right : Char) (a b : Text) : Prop :=
  ∃ v w, Balanced left right v ∧ Balanced left right w ∧ b = a ++ v ++ left :: w

variable {a b c : Text}

theorem Grows.refl (a : Text) : Grows left right a a :=
  ⟨[], .nil, by simp⟩

theorem Grows.trans (hab : Grows left right a b) (hbc : Grows left right b c) : Grows left right a c := by
  obtain ⟨v, hv, rfl⟩ := hab
  obtain ⟨w, hw, rfl⟩ := hbc
  exact ⟨v ++ w, hv.append hw, by simp⟩

theorem Grows.opened (h : Grows left right a b) : GrowsOpen left right a (b ++ [left]) := by
  obtain ⟨v, hv, rfl⟩ := h
  exact ⟨v, [], hv, .nil, rfl⟩

theorem GrowsOpen.trans (hab : GrowsOpen left right a b) (hbc : Grows left right b c) : GrowsOpen left right a c := by
  obtain ⟨u, v, hu, hv, rfl⟩ := hab
  obtain ⟨w, hw, rfl⟩ := hbc
  exact ⟨u, v ++ w, hu, hv.append hw, by simp⟩

theorem GrowsOpen.closed (hne : left ≠ right) (h : GrowsOpen left right a b) : Grows left right a (b ++ [right]) := by
  obtain ⟨v, w, hv, hw, rfl⟩ := h
  exact ⟨v ++ left :: (w ++ [right]), hv.append (hw.enclose hne), by simp⟩

/-! ## The lowest point -/

/-- The least surplus of a part from the start. -/
def lowest (left right : Char) : Text → Int
  | [] => 0
  | c :: cs => min 0 (surplus left right [c] + lowest left right cs)

theorem surplus_cons (c : Char) (t : Text) : surplus left right (c :: t) = surplus left right [c] + surplus left right t :=
  surplus_append [c] t

theorem lowest_le_surplus {p t : Text} (h : p <+: t) : lowest left right t ≤ surplus left right p := by
  induction t generalizing p with
  | nil =>
      rw [List.prefix_nil.mp h]
      exact Int.le_refl _
  | cons c cs ih =>
      rcases List.prefix_cons_iff.mp h with rfl | ⟨q, rfl, hq⟩
      · exact Int.min_le_left _ _
      · have hrest := ih hq
        rw [surplus_cons, lowest]
        omega

theorem exists_surplus_eq_lowest (left right : Char) (t : Text) : ∃ p, p <+: t ∧ surplus left right p = lowest left right t := by
  induction t with
  | nil => exact ⟨[], List.prefix_rfl, rfl⟩
  | cons c cs ih =>
      obtain ⟨p, hp, hlow⟩ := ih
      by_cases h : 0 ≤ surplus left right [c] + lowest left right cs
      · exact ⟨[], List.nil_prefix, (Int.min_eq_left h).symm⟩
      · refine ⟨c :: p, List.cons_prefix_cons.mpr ⟨rfl, hp⟩, ?_⟩
        rw [surplus_cons, hlow, lowest]
        omega

theorem lowest_nonpos (left right : Char) (t : Text) : lowest left right t ≤ 0 :=
  lowest_le_surplus List.nil_prefix

theorem lowest_append (a b : Text) :
    lowest left right (a ++ b) = min (lowest left right a) (surplus left right a + lowest left right b) := by
  induction a with
  | nil =>
      have hlow := lowest_nonpos left right b
      simp only [List.nil_append, lowest, surplus_nil]
      omega
  | cons c a ih =>
      rw [List.cons_append, lowest, ih, lowest, surplus_cons c a]
      omega

theorem balanced_iff {t : Text} : Balanced left right t ↔ surplus left right t = 0 ∧ 0 ≤ lowest left right t := by
  constructor
  · intro h
    obtain ⟨p, hp, hlow⟩ := exists_surplus_eq_lowest left right t
    exact ⟨h.surplus_eq, hlow ▸ h.nonneg p hp⟩
  · rintro ⟨htotal, hlow⟩
    refine ⟨fun p hp => Int.le_trans hlow (lowest_le_surplus hp), ?_⟩
    unfold surplus at htotal
    omega

instance (t : Text) : Decidable (Balanced left right t) :=
  decidable_of_iff _ balanced_iff.symm

/-! ## Other characters -/

section
variable {p : Char → Bool} (hleft : p left = true) (hright : p right = true)
include hleft hright

/-- Other characters do not matter. -/
theorem surplus_filter (t : Text) : surplus left right (t.filter p) = surplus left right t := by
  simp only [surplus, List.count_filter hleft, List.count_filter hright]

theorem lowest_filter (t : Text) : lowest left right (t.filter p) = lowest left right t := by
  induction t with
  | nil => rfl
  | cons c cs ih =>
      by_cases hc : p c = true
      · rw [List.filter_cons_of_pos hc, lowest, ih, lowest]
      · have hother : surplus left right [c] = 0 := by
          rw [← surplus_filter hleft hright [c], List.filter_cons_of_neg hc]
          rfl
        have hlow := lowest_nonpos left right cs
        rw [List.filter_cons_of_neg hc, ih, lowest, hother]
        omega

theorem Balanced.of_filter {t : Text} (h : Balanced left right (t.filter p)) : Balanced left right t := by
  rw [balanced_iff, surplus_filter hleft hright, lowest_filter hleft hright] at h
  exact balanced_iff.mpr h

end

end FlowLang.Text
