import FlowLang.Service.History

/-!
# The last of the compilations

A history keeps the last of the compilations that it was given. Taking the last of what is already cut makes no difference,
so what a history holds can be said about all compilations that there ever were. Where these have consecutive numbers, so
do the last of them.
-/

namespace FlowLang.Service.History

variable {α β : Type}

@[simp] theorem lastOf_nil (n : Nat) : lastOf n ([] : List α) = [] :=
  List.drop_nil

theorem lastOf_eq_self {n : Nat} {xs : List α} (h : xs.length ≤ n) : lastOf n xs = xs := by
  rw [lastOf, Nat.sub_eq_zero_of_le h, List.drop_zero]

theorem lastOf_isSuffix (n : Nat) (xs : List α) : lastOf n xs <:+ xs :=
  List.drop_suffix _ _

/-- The end of a list that has the length of its last members is them. -/
theorem lastOf_eq_of_isSuffix {n : Nat} {xs ys : List α} (h : ys <:+ xs) (hlength : ys.length = min n xs.length) :
    lastOf n xs = ys := by
  rw [List.suffix_iff_eq_drop.mp h, lastOf, hlength]
  congr 1
  omega

theorem lastOf_append_lastOf {n m : Nat} (h : n ≤ m) (xs zs : List α) :
    lastOf n (lastOf m xs ++ zs) = lastOf n (xs ++ zs) := by
  have hcut : lastOf m xs ++ zs <:+ xs ++ zs := by
    obtain ⟨front, hfront⟩ := lastOf_isSuffix m xs
    exact ⟨front, by rw [← List.append_assoc, hfront]⟩
  symm
  apply lastOf_eq_of_isSuffix ((lastOf_isSuffix n _).trans hcut)
  simp only [length_lastOf, List.length_append]
  omega

theorem lastOf_lastOf (n m : Nat) (xs : List α) : lastOf n (lastOf m xs) = lastOf (min n m) xs := by
  symm
  apply lastOf_eq_of_isSuffix ((lastOf_isSuffix n _).trans (lastOf_isSuffix m xs))
  simp only [length_lastOf]
  omega

theorem lastOf_min_length (n : Nat) (xs : List α) : lastOf (min n xs.length) xs = lastOf n xs := by
  apply lastOf_eq_of_isSuffix (lastOf_isSuffix n xs)
  simp

theorem map_lastOf (f : α → β) (n : Nat) (xs : List α) : (lastOf n xs).map f = lastOf n (xs.map f) := by
  rw [lastOf, lastOf, List.map_drop, List.length_map]

/-- There are not more compilations than there may be. -/
def Bounded (h : History) : Prop :=
  h.records.length ≤ h.limit

/-- A history that holds the last of some compilations holds the last of them and a new one. -/
theorem add_lastOf (limit : Nat) (rs : List CompilationRecord) (r : CompilationRecord) :
    add ⟨limit, lastOf limit rs⟩ r = ⟨limit, lastOf limit (rs ++ [r])⟩ := by
  rw [add, lastOf_append_lastOf (Nat.le_refl limit)]

end FlowLang.Service.History

namespace FlowLang.Service

open History

/-- The first `n` numbers behind `s`. -/
def numbers (s : Int) (n : Nat) : List Int :=
  (List.range n).map fun (k : Nat) => s + 1 + (k : Int)

@[simp] theorem length_numbers (s : Int) (n : Nat) : (numbers s n).length = n := by
  simp [numbers]

theorem numbers_succ (s : Int) (n : Nat) : numbers s (n + 1) = numbers s n ++ [s + n + 1] := by
  have hnext : s + 1 + (n : Int) = s + n + 1 := by omega
  rw [numbers, List.range_succ, List.map_append, List.map_singleton, hnext, numbers]

theorem numbers_add (s : Int) (n m : Nat) : numbers s (n + m) = numbers s n ++ numbers (s + n) m := by
  induction m with
  | zero => exact (List.append_nil _).symm
  | succ m ih =>
      have hnext : s + ((n + m : Nat) : Int) + 1 = s + n + m + 1 := by omega
      rw [← Nat.add_assoc, numbers_succ, ih, numbers_succ, List.append_assoc, hnext]

theorem pairwise_numbers (s : Int) (n : Nat) : (numbers s n).Pairwise (· < ·) := by
  refine List.pairwise_map.mpr (List.pairwise_lt_range.imp ?_)
  intro a b hab
  omega

theorem lastOf_numbers (s : Int) {n k : Nat} (h : k ≤ n) : lastOf k (numbers s n) = numbers (s + n - k) k := by
  obtain ⟨m, rfl⟩ := Nat.exists_eq_add_of_le' h
  have hstart : s + ((m + k : Nat) : Int) - k = s + m := by omega
  rw [hstart]
  apply lastOf_eq_of_isSuffix
  · exact ⟨numbers s m, (numbers_add s m k).symm⟩
  · rw [length_numbers, length_numbers]
    omega

end FlowLang.Service
