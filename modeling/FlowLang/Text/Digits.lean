import FlowLang.Text.Basic

/-!
# Numbers in texts

How integers are written: in base ten with a minus sign where needed, in base ten filled up with zeros to a width,
and in base sixteen with a fixed number of digits.
-/

namespace FlowLang.Text

/-- A natural number in base ten. -/
def ofNat (n : Nat) : Text :=
  Nat.toDigits 10 n

/-- An integer in base ten, with a minus sign in front of a negative one. -/
def ofInt : Int → Text
  | .ofNat n => ofNat n
  | .negSucc n => '-' :: ofNat (n + 1)

/-- A natural number in base ten with zeros in front up to `width` digits. -/
def padded (width n : Nat) : Text :=
  List.replicate (width - (ofNat n).length) '0' ++ ofNat n

/-- The last `width` digits of a number in base sixteen, letters in lower case. -/
def hex : Nat → Nat → Text
  | 0, _ => []
  | width + 1, n => hex width (n / 16) ++ [Nat.digitChar (n % 16)]

theorem ofNat_inj {m n : Nat} : ofNat m = ofNat n ↔ m = n := by
  refine ⟨fun h => ?_, fun h => h ▸ rfl⟩
  have := congrArg (Nat.ofDigitChars 10 · 0) h
  simpa [ofNat, Nat.ofDigitChars_toDigits] using this

theorem isDigit_of_mem_ofNat {c : Char} {n : Nat} (h : c ∈ ofNat n) : c.isDigit = true :=
  Nat.isDigit_of_mem_toDigits (by decide) (by decide) h

theorem underscore_not_mem_ofInt (n : Int) : '_' ∉ ofInt n := by
  cases n with
  | ofNat n => exact fun h => absurd (isDigit_of_mem_ofNat h) (by decide)
  | negSucc n =>
    intro h
    rcases List.mem_cons.mp h with h | h
    · exact absurd h (by decide)
    · exact absurd (isDigit_of_mem_ofNat h) (by decide)

/-- Only a negative number starts with a minus sign. -/
theorem ofNat_ne_minus (m n : Nat) : ofNat m ≠ '-' :: ofNat n := by
  intro h
  have hminus : '-' ∈ ofNat m := h ▸ List.mem_cons_self
  exact absurd (isDigit_of_mem_ofNat hminus) (by decide)

theorem ofInt_inj {m n : Int} : ofInt m = ofInt n ↔ m = n := by
  refine ⟨fun h => ?_, fun h => h ▸ rfl⟩
  cases m with
  | ofNat m =>
    cases n with
    | ofNat n => rw [ofNat_inj.mp h]
    | negSucc n => exact absurd h (ofNat_ne_minus m (n + 1))
  | negSucc m =>
    cases n with
    | ofNat n => exact absurd h.symm (ofNat_ne_minus n (m + 1))
    | negSucc n =>
      have h := ofNat_inj.mp (List.cons.inj h).2
      rw [Nat.succ.inj h]

end FlowLang.Text
