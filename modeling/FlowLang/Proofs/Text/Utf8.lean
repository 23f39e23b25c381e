import FlowLang.Text.Utf8

/-!
# Reading UTF-8 back

The bytes of a text are the bytes of its characters one behind the other. At each character the reader takes exactly these
bytes, so that it reads the text back.
-/

namespace FlowLang.Utf8

open Text

/-! ## One character -/

theorem takeTails_cons {low high : Nat} {b : UInt8} (hb : low ≤ b.toNat ∧ b.toNat ≤ high) (taken : Bytes) (code : Nat)
    (more : List (Nat × Nat)) (rest : Bytes) :
    takeTails taken code ((low, high) :: more) (b :: rest) =
      takeTails (taken ++ [b]) (code * 64 + (b.toNat - 0x80)) more rest :=
  if_pos hb

theorem takeTails_nil (taken : Bytes) (code : Nat) (rest : Bytes) :
    takeTails taken code [] rest = ⟨.ok (Char.ofNat code), taken⟩ := by
  cases rest <;> rfl

theorem toNat_ofNat_of_lt {n : Nat} (h : n < 256) : (UInt8.ofNat n).toNat = n := by
  rw [UInt8.toNat_ofNat']
  exact Nat.mod_eq_of_lt h

section
variable {v : Nat}

theorem tails?_one (hhigh : v ≤ 0x7F) : tails? v = some [] := by
  rw [tails?, if_pos (by omega)]

theorem tails?_two (hlow : 0x7F < v) (hhigh : v ≤ 0x7FF) : tails? (v / 64 % 32 + 192) = some [(0x80, 0xBF)] := by
  rw [tails?, if_neg (by omega), if_neg (by omega), if_pos (by omega)]

/-- The second of three bytes lies in the range that the first one leaves it: the code is not too small for three bytes,
and there are no characters among the surrogates. -/
theorem tails?_three (hlow : 0x7FF < v) (hhigh : v ≤ 0xFFFF) (hvalid : v < 0xD800 ∨ 0xDFFF < v) :
    ∃ low high, tails? (v / 4096 % 16 + 224) = some [(low, high), (0x80, 0xBF)] ∧
      low ≤ v / 64 % 64 + 128 ∧ v / 64 % 64 + 128 ≤ high := by
  obtain hv | hv | ⟨hfirst, hsurrogate⟩ : v / 4096 = 0 ∨ v / 4096 = 13 ∨ v / 4096 ≠ 0 ∧ v / 4096 ≠ 13 := by omega
  · exact ⟨0xA0, 0xBF, by rw [hv]; rfl, by omega, by omega⟩
  · exact ⟨0x80, 0x9F, by rw [hv]; rfl, by omega, by omega⟩
  · refine ⟨0x80, 0xBF, ?_, by omega, by omega⟩
    rw [tails?, if_neg (by omega), if_neg (by omega), if_neg (by omega), if_neg (by omega), if_neg (by omega),
      if_pos (by omega)]

theorem tails?_four (hlow : 0xFFFF < v) (hhigh : v < 0x110000) :
    ∃ low high, tails? (v / 262144 % 8 + 240) = some [(low, high), (0x80, 0xBF), (0x80, 0xBF)] ∧
      low ≤ v / 4096 % 64 + 128 ∧ v / 4096 % 64 + 128 ≤ high := by
  obtain hv | hv | ⟨hfirst, hlast⟩ : v / 262144 = 0 ∨ v / 262144 = 4 ∨ v / 262144 ≠ 0 ∧ v / 262144 < 4 := by omega
  · exact ⟨0x90, 0xBF, by rw [hv]; rfl, by omega, by omega⟩
  · exact ⟨0x80, 0x8F, by rw [hv]; rfl, by omega, by omega⟩
  · refine ⟨0x80, 0xBF, ?_, by omega, by omega⟩
    rw [tails?, if_neg (by omega), if_neg (by omega), if_neg (by omega), if_neg (by omega), if_neg (by omega),
      if_neg (by omega), if_neg (by omega), if_pos (by omega)]

end

/-- At the bytes of a character the reader takes them and gives the character. -/
theorem front_eq {c : Char} {lead : UInt8} {tail : Bytes} (h : String.utf8EncodeChar c = lead :: tail) (rest : Bytes) :
    front lead (tail ++ rest) = ⟨.ok c, lead :: tail⟩ := by
  have hvalid : c.toNat < 0xD800 ∨ 0xDFFF < c.toNat ∧ c.toNat < 0x110000 := c.valid
  -- every byte but the first two has the last six bits that are left of the code
  have low (n : Nat) : (UInt8.ofNat (n % 64 + 128)).toNat = n % 64 + 128 := toNat_ofNat_of_lt (by omega)
  have inRange (n : Nat) : 0x80 ≤ (UInt8.ofNat (n % 64 + 128)).toNat ∧ (UInt8.ofNat (n % 64 + 128)).toNat ≤ 0xBF := by
    rw [low]
    omega
  have hencode : (if c.toNat ≤ 127 then [UInt8.ofNat c.toNat]
      else if c.toNat ≤ 2047 then [UInt8.ofNat (c.toNat / 64 % 32 + 192), UInt8.ofNat (c.toNat % 64 + 128)]
      else if c.toNat ≤ 65535 then [UInt8.ofNat (c.toNat / 4096 % 16 + 224), UInt8.ofNat (c.toNat / 64 % 64 + 128),
        UInt8.ofNat (c.toNat % 64 + 128)]
      else [UInt8.ofNat (c.toNat / 262144 % 8 + 240), UInt8.ofNat (c.toNat / 4096 % 64 + 128),
        UInt8.ofNat (c.toNat / 64 % 64 + 128), UInt8.ofNat (c.toNat % 64 + 128)]) = lead :: tail := h
  have taken {code : Nat} (hcode : code = c.toNat) (bytes : Bytes) :
      (⟨.ok (Char.ofNat code), bytes⟩ : Piece) = ⟨.ok c, bytes⟩ := by
    rw [hcode, Char.ofNat_toNat]
  generalize c.toNat = v at hvalid hencode taken
  unfold front
  split at hencode
  · cases hencode
    rw [toNat_ofNat_of_lt (by omega), tails?_one (by omega)]
    dsimp only
    rw [takeTails_nil]
    exact taken rfl _
  split at hencode
  · cases hencode
    rw [toNat_ofNat_of_lt (by omega), tails?_two (by omega) (by omega)]
    dsimp only [List.cons_append]
    rw [takeTails_cons (inRange _), takeTails_nil, low]
    have hcode : (v / 64 % 32 + 192 - 0xC0) * 64 + (v % 64 + 128 - 0x80) = v := by omega
    exact taken hcode _
  split at hencode
  · cases hencode
    obtain ⟨lowest, highest, htails, hsecond⟩ := tails?_three (v := v) (by omega) (by omega) (by omega)
    rw [toNat_ofNat_of_lt (by omega), htails]
    dsimp only [List.cons_append]
    rw [takeTails_cons (by rw [low]; exact hsecond), takeTails_cons (inRange _), takeTails_nil, low, low]
    have hcode : ((v / 4096 % 16 + 224 - 0xE0) * 64 + (v / 64 % 64 + 128 - 0x80)) * 64 + (v % 64 + 128 - 0x80) = v := by
      omega
    exact taken hcode _
  · cases hencode
    obtain ⟨lowest, highest, htails, hsecond⟩ := tails?_four (v := v) (by omega) (by omega)
    rw [toNat_ofNat_of_lt (by omega), htails]
    dsimp only [List.cons_append]
    rw [takeTails_cons (by rw [low]; exact hsecond), takeTails_cons (inRange _), takeTails_cons (inRange _),
      takeTails_nil, low, low, low]
    have hcode : (((v / 262144 % 8 + 240 - 0xF0) * 64 + (v / 4096 % 64 + 128 - 0x80)) * 64 + (v / 64 % 64 + 128 - 0x80)) * 64
        + (v % 64 + 128 - 0x80) = v := by
      omega
    exact taken hcode _

/-! ## Texts -/

theorem piecesFrom_eq_drop (skip : Nat) (bytes : Bytes) : piecesFrom skip bytes = pieces (bytes.drop skip) := by
  induction bytes generalizing skip with
  | nil => cases skip <;> rfl
  | cons b bytes ih =>
      cases skip with
      | zero => rfl
      | succ skip => exact ih skip

theorem pieces_append (c : Char) (bytes : Bytes) :
    pieces (String.utf8EncodeChar c ++ bytes) = ⟨.ok c, String.utf8EncodeChar c⟩ :: pieces bytes := by
  obtain ⟨lead, tail, h⟩ := List.exists_cons_of_ne_nil (String.utf8EncodeChar_ne_nil (c := c))
  rw [h, List.cons_append, pieces, piecesFrom, front_eq h, piecesFrom_eq_drop]
  simp

theorem join_pieces_encode (position : Nat) (t : Text) : join position (pieces (encode t)) = .ok t := by
  induction t generalizing position with
  | nil => rfl
  | cons c t ih =>
      have hencode : encode (c :: t) = String.utf8EncodeChar c ++ encode t := List.flatMap_cons
      rw [hencode, pieces_append, join, ih]
      rfl

/-- A text is read back from its bytes. -/
theorem decode_encode (t : Text) : decode (encode t) = .ok t :=
  join_pieces_encode 0 t

/-! ## Texts among other bytes -/

theorem decodeLossy_encode_append (t : Text) (bytes : Bytes) : decodeLossy (encode t ++ bytes) = t ++ decodeLossy bytes := by
  induction t with
  | nil => rfl
  | cons c t ih =>
      have hencode : encode (c :: t) ++ bytes = String.utf8EncodeChar c ++ (encode t ++ bytes) := by
        rw [encode, List.flatMap_cons, List.append_assoc, encode]
      rw [decodeLossy] at ih ⊢
      rw [hencode, pieces_append, List.map_cons, ih]
      rfl

/-- A byte that no character starts with is replaced on its own. -/
theorem decodeLossy_stray {b : UInt8} (h : tails? b.toNat = none) (bytes : Bytes) :
    decodeLossy (b :: bytes) = '�' :: decodeLossy bytes := by
  rw [decodeLossy, pieces, piecesFrom, front, h]
  rfl

end FlowLang.Utf8

namespace FlowLang.Text

theorem unifyNewlines_append {t : Text} (h : '\r' ∉ t) (u : Text) : unifyNewlines (t ++ u) = t ++ unifyNewlines u := by
  induction t with
  | nil => rfl
  | cons c t ih =>
      have hc : c ≠ '\r' := fun hc => h (hc ▸ List.mem_cons_self)
      have ht : '\r' ∉ t := fun ht => h (List.mem_cons_of_mem c ht)
      simp [unifyNewlines, hc, ih ht]

end FlowLang.Text
