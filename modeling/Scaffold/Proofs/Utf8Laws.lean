/-
# Texts through bytes and back

A character of a text is not half of a surrogate pair, so its first two bytes
lie in a row of the table of `Scaffold.Text.Utf8`: the first one opens it, and
the second is in the narrower range that the first one asks for (`Opens`).
Each byte then gives back its bits, and what was written is read
(`decode_encode`).
-/
import Scaffold.Text.Utf8

namespace Scaffold.Utf8

variable {index b n : Nat} {o : Open} {r : Bytes}

/-! ## One byte -/

theorem toNat_ofNat (hb : b < 256) : (UInt8.ofNat b).toNat = b :=
  UInt8.toNat_ofNat_of_lt hb

/-- The first byte of several opens a character. -/
theorem decodeFrom_first (hb : b < 256) (hlong : 0x80 ≤ b) (ho : open? index b = some o) :
    decodeFrom index none (UInt8.ofNat b :: r) = decodeFrom (index + 1) (some o) r := by
  simp only [decodeFrom, toNat_ofNat hb, ho]
  rw [if_neg (by omega)]

/-- A character is open with these bits, so many bytes are to come behind the
next one, and that may be `next`. -/
structure Opens (o : Open) (value pending next : Nat) : Prop where
  value : o.value = value
  pending : o.pending = pending
  low : o.low ≤ next
  high : next ≤ o.high

/-- A byte in the midst of a character. -/
theorem decodeFrom_next {value pending k : Nat}
    (ho : Opens o value (pending + 1) (0x80 + k % 64)) (next : Nat) :
    ∃ o', Opens o' (value * 64 + k % 64) pending (0x80 + next % 64) ∧
      decodeFrom index (some o) (UInt8.ofNat (0x80 + k % 64) :: r) =
        decodeFrom (index + 1) (some o') r := by
  refine ⟨o.extend (0x80 + k % 64), ⟨?_, ?_, ?_, ?_⟩, ?_⟩
  · simp only [Open.extend, ho.value]
    omega
  · simp only [Open.extend, ho.pending, Nat.add_sub_cancel]
  · simp [Open.extend]
  · simp only [Open.extend]
    omega
  · simp only [decodeFrom, toNat_ofNat (show 0x80 + k % 64 < 256 by omega)]
    rw [if_pos (by simp [ho.low, ho.high]), if_neg (by simp [ho.pending])]

/-- The last byte of a character. -/
theorem decodeFrom_last {value k : Nat} (ho : Opens o value 0 (0x80 + k % 64)) :
    decodeFrom index (some o) (UInt8.ofNat (0x80 + k % 64) :: r) =
      (decodeFrom (index + 1) none r).map (Char.ofNat (value * 64 + k % 64) :: ·) := by
  have hvalue : (o.extend (0x80 + k % 64)).value = value * 64 + k % 64 := by
    simp only [Open.extend, ho.value]
    omega
  simp only [decodeFrom, toNat_ofNat (show 0x80 + k % 64 < 256 by omega)]
  rw [if_pos (by simp [ho.low, ho.high]), if_pos ho.pending, hvalue]

/-! ## First bytes -/

theorem exists_open?_two (index : Nat) (hn : 0x80 ≤ n) (hn' : n < 0x800) :
    ∃ o, open? index (0xC0 + n / 64) = some o ∧ Opens o (n / 64) 0 (0x80 + n % 64) := by
  refine ⟨⟨index, 1, n / 64, 0, 0x80, 0xBF⟩, ?_, rfl, rfl, by simp, by simp; omega⟩
  rw [open?, if_pos (by simp; omega), Nat.add_sub_cancel_left]

theorem exists_open?_three (index : Nat) (hn : 0x800 ≤ n) (hn' : n < 0x10000)
    (hvalid : n < 0xD800 ∨ 0xDFFF < n) :
    ∃ o, open? index (0xE0 + n / 4096) = some o ∧
      Opens o (n / 4096) 1 (0x80 + n / 64 % 64) := by
  by_cases hfirst : n / 4096 = 0
  · refine ⟨⟨index, 1, 0, 1, 0xA0, 0xBF⟩, by rw [hfirst]; rfl, hfirst.symm, rfl, ?_, ?_⟩
    all_goals simp only; omega
  by_cases hsurrogate : n / 4096 = 0xD
  · refine ⟨⟨index, 1, 0xD, 1, 0x80, 0x9F⟩, ?_, hsurrogate.symm, rfl, ?_, ?_⟩
    · rw [hsurrogate]
      rfl
    all_goals simp only; omega
  refine ⟨⟨index, 1, n / 4096, 1, 0x80, 0xBF⟩, ?_, rfl, rfl, by simp, by simp; omega⟩
  rw [open?, if_neg (by simp; omega), if_neg (by simp; omega), if_neg (by simp; omega),
    if_pos (by simp; omega), Nat.add_sub_cancel_left]

theorem exists_open?_four (index : Nat) (hn : 0x10000 ≤ n) (hn' : n < 0x110000) :
    ∃ o, open? index (0xF0 + n / 262144) = some o ∧
      Opens o (n / 262144) 2 (0x80 + n / 4096 % 64) := by
  by_cases hfirst : n / 262144 = 0
  · refine ⟨⟨index, 1, 0, 2, 0x90, 0xBF⟩, by rw [hfirst]; rfl, hfirst.symm, rfl, ?_, ?_⟩
    all_goals simp only; omega
  by_cases hlast : n / 262144 = 4
  · refine ⟨⟨index, 1, 4, 2, 0x80, 0x8F⟩, by rw [hlast]; rfl, hlast.symm, rfl, ?_, ?_⟩
    all_goals simp only; omega
  refine ⟨⟨index, 1, n / 262144, 2, 0x80, 0xBF⟩, ?_, rfl, rfl, by simp, by simp; omega⟩
  rw [open?, if_neg (by simp; omega), if_neg (by simp; omega), if_neg (by simp; omega),
    if_neg (by simp; omega), if_neg (by simp; omega), if_neg (by simp; omega),
    if_pos (by simp; omega), Nat.add_sub_cancel_left]

/-! ## Characters -/

theorem encodeChar_one {c : Char} (h : c.toNat < 0x80) :
    encodeChar c = [UInt8.ofNat c.toNat] := by
  rw [encodeChar]
  dsimp only
  rw [if_pos h]
  rfl

theorem encodeChar_two {c : Char} (h : 0x80 ≤ c.toNat) (h' : c.toNat < 0x800) :
    encodeChar c =
      [UInt8.ofNat (0xC0 + c.toNat / 64), UInt8.ofNat (0x80 + c.toNat % 64)] := by
  rw [encodeChar]
  dsimp only
  rw [if_neg (by omega), if_pos h']
  simp [Nat.pow]

theorem encodeChar_three {c : Char} (h : 0x800 ≤ c.toNat) (h' : c.toNat < 0x10000) :
    encodeChar c =
      [UInt8.ofNat (0xE0 + c.toNat / 4096), UInt8.ofNat (0x80 + c.toNat / 64 % 64),
        UInt8.ofNat (0x80 + c.toNat % 64)] := by
  rw [encodeChar]
  dsimp only
  rw [if_neg (by omega), if_neg (by omega), if_pos h']
  simp [Nat.pow]

theorem encodeChar_four {c : Char} (h : 0x10000 ≤ c.toNat) :
    encodeChar c =
      [UInt8.ofNat (0xF0 + c.toNat / 262144), UInt8.ofNat (0x80 + c.toNat / 4096 % 64),
        UInt8.ofNat (0x80 + c.toNat / 64 % 64), UInt8.ofNat (0x80 + c.toNat % 64)] := by
  rw [encodeChar]
  dsimp only
  rw [if_neg (by omega), if_neg (by omega), if_neg (by omega)]
  simp [Nat.pow]

theorem decodeFrom_encodeChar (index : Nat) (c : Char) (r : Bytes) :
    ∃ index', decodeFrom index none (encodeChar c ++ r) =
      (decodeFrom index' none r).map (c :: ·) := by
  have hvalid : c.toNat < 0xD800 ∨ 0xDFFF < c.toNat ∧ c.toNat < 0x110000 := c.valid
  have hchar : ∀ n, n = c.toNat → Char.ofNat n = c := by
    rintro _ rfl
    exact Char.ofNat_toNat c
  by_cases hone : c.toNat < 0x80
  · refine ⟨index + 1, ?_⟩
    rw [encodeChar_one hone, List.singleton_append]
    simp only [decodeFrom, toNat_ofNat (show c.toNat < 256 by omega)]
    rw [if_pos hone, hchar _ rfl]
  by_cases htwo : c.toNat < 0x800
  · obtain ⟨o, ho, hopens⟩ := exists_open?_two index (Nat.le_of_not_lt hone) htwo
    refine ⟨index + 2, ?_⟩
    rw [encodeChar_two (Nat.le_of_not_lt hone) htwo]
    simp only [List.cons_append, List.nil_append]
    rw [decodeFrom_first (by omega) (by omega) ho, decodeFrom_last hopens, hchar _ (by omega)]
  by_cases hthree : c.toNat < 0x10000
  · obtain ⟨o, ho, hopens⟩ :=
      exists_open?_three index (Nat.le_of_not_lt htwo) hthree (by omega)
    refine ⟨index + 3, ?_⟩
    rw [encodeChar_three (Nat.le_of_not_lt htwo) hthree]
    simp only [List.cons_append, List.nil_append]
    obtain ⟨o', hopens', hnext⟩ := decodeFrom_next hopens c.toNat
    rw [decodeFrom_first (by omega) (by omega) ho, hnext, decodeFrom_last hopens',
      hchar _ (by omega)]
  · obtain ⟨o, ho, hopens⟩ := exists_open?_four index (Nat.le_of_not_lt hthree) (by omega)
    refine ⟨index + 4, ?_⟩
    rw [encodeChar_four (Nat.le_of_not_lt hthree)]
    simp only [List.cons_append, List.nil_append]
    obtain ⟨o', hopens', hnext⟩ := decodeFrom_next hopens (c.toNat / 64)
    obtain ⟨o'', hopens'', hnext'⟩ := decodeFrom_next hopens' c.toNat
    rw [decodeFrom_first (by omega) (by omega) ho, hnext, hnext', decodeFrom_last hopens'',
      hchar _ (by omega)]

theorem decodeFrom_encode (index : Nat) (t : Text) : decodeFrom index none (encode t) = .ok t := by
  induction t generalizing index with
  | nil => rfl
  | cons c r ih =>
      obtain ⟨index', hchar⟩ := decodeFrom_encodeChar index c (encode r)
      calc decodeFrom index none (encode (c :: r))
          = decodeFrom index none (encodeChar c ++ encode r) := by
            rw [encode, List.flatMap_cons, encode]
        _ = (decodeFrom index' none (encode r)).map (c :: ·) := hchar
        _ = .ok (c :: r) := by rw [ih]; rfl

/-- The bytes of a text spell the text. -/
theorem decode_encode (t : Text) : decode (encode t) = .ok t :=
  decodeFrom_encode 0 t

end Scaffold.Utf8
