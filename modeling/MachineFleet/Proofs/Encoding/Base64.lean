import MachineFleet.Encoding.Base64

/-!
Base64 reads exactly what it writes: a text can be decoded only if it is the one text into which its
bytes are encoded.
-/

namespace MachineFleet.Base64

theorem value?_digit {n : Nat} (small : n < 64) : value? (digit n) = some n := by
  have each : ∀ n < 64, value? (digit n) = some n := by decide
  exact each n small

theorem digit_ne_padding {n : Nat} (small : n < 64) : digit n ≠ '=' := by
  have each : ∀ n < 64, digit n ≠ '=' := by decide
  exact each n small

theorem eq_digit_of_value? {c : Char} {n : Nat} (value : value? c = some n) :
    n < 64 ∧ c = digit n := by
  unfold value? at value
  dsimp only at value
  have self : Char.ofNat c.toNat = c := c.ofNat_toNat
  split at value
  · rename_i upper
    cases value
    refine ⟨by omega, ?_⟩
    rw [digit, if_pos (by omega), Nat.add_sub_cancel' upper.1, self]
  split at value
  · rename_i lower
    cases value
    refine ⟨by omega, ?_⟩
    rw [digit, if_neg (by omega), if_pos (by omega), Nat.add_sub_cancel' (by omega), self]
  split at value
  · rename_i figure
    cases value
    refine ⟨by omega, ?_⟩
    rw [digit, if_neg (by omega), if_neg (by omega), if_pos (by omega), Nat.add_sub_cancel, self]
  split at value
  · rename_i plus
    cases value
    exact ⟨by decide, plus⟩
  split at value
  · rename_i slash
    cases value
    exact ⟨by decide, slash⟩
  · cases value

theorem ofNat_eq {b : UInt8} {n : Nat} (low : n % 256 = b.toNat) : UInt8.ofNat n = b :=
  UInt8.toNat_inj.mp (UInt8.toNat_ofNat'.trans low)

theorem encode_single {x y : Nat} (small : x < 64) (small' : y < 64)
    (rest : (x * 64 + y) % 16 = 0) :
    encode [UInt8.ofNat ((x * 64 + y) / 16)] = [digit x, digit y, '=', '='] := by
  have byte : (UInt8.ofNat ((x * 64 + y) / 16)).toNat = (x * 64 + y) / 16 :=
    UInt8.toNat_ofNat'.trans (by omega)
  have high : (x * 64 + y) / 16 * 16 / 64 = x := by omega
  have low : (x * 64 + y) / 16 * 16 % 64 = y := by omega
  rw [encode, byte, high, low]

theorem encode_pair {x y z n : Nat} (small : x < 64) (small' : y < 64) (small'' : z < 64)
    (whole : (x * 64 + y) * 64 + z = n) (rest : n % 4 = 0) :
    encode [UInt8.ofNat (n / 1024), UInt8.ofNat (n / 4)] = [digit x, digit y, digit z, '='] := by
  have byte : (UInt8.ofNat (n / 1024)).toNat = n / 1024 := UInt8.toNat_ofNat'.trans (by omega)
  have byte' : (UInt8.ofNat (n / 4)).toNat = n / 4 % 256 := UInt8.toNat_ofNat'
  have recovered : (n / 1024 * 256 + n / 4 % 256) * 4 = n := by omega
  obtain ⟨high, middle, low⟩ : n / 4096 = x ∧ n / 64 % 64 = y ∧ n % 64 = z := by omega
  rw [encode, byte, byte', recovered, high, middle, low]

theorem encode_triple {x y z w n : Nat} (small : x < 64) (small' : y < 64) (small'' : z < 64)
    (last : w < 64) (whole : ((x * 64 + y) * 64 + z) * 64 + w = n) (bytes : List UInt8) :
    encode (UInt8.ofNat (n / 65536) :: UInt8.ofNat (n / 256) :: UInt8.ofNat n :: bytes) =
      digit x :: digit y :: digit z :: digit w :: encode bytes := by
  have byte : (UInt8.ofNat (n / 65536)).toNat = n / 65536 := UInt8.toNat_ofNat'.trans (by omega)
  have byte' : (UInt8.ofNat (n / 256)).toNat = n / 256 % 256 := UInt8.toNat_ofNat'
  have byte'' : (UInt8.ofNat n).toNat = n % 256 := UInt8.toNat_ofNat'
  have recovered : (n / 65536 * 256 + n / 256 % 256) * 256 + n % 256 = n := by omega
  obtain ⟨high, middle, middle', low⟩ :
      n / 262144 = x ∧ n / 4096 % 64 = y ∧ n / 64 % 64 = z ∧ n % 64 = w := by omega
  rw [encode, byte, byte', byte'', recovered, high, middle, middle', low]

/-- Four characters are three bytes, if the last one does not fill up. -/
theorem decode_quad {a b c d : Char} (full : d ≠ '=') (rest : List Char) :
    decode (a :: b :: c :: d :: rest) = (do
      let n := (((← value? a) * 64 + (← value? b)) * 64 + (← value? c)) * 64 + (← value? d)
      let bytes ← decode rest
      return UInt8.ofNat (n / 65536) :: UInt8.ofNat (n / 256) :: UInt8.ofNat n :: bytes) := by
  rw [decode]
  · exact fun _ last _ => full last
  · exact fun last _ => full last

theorem decode_triple {a b c : Char} (full : c ≠ '=') : decode [a, b, c, '='] = (do
      let n := ((← value? a) * 64 + (← value? b)) * 64 + (← value? c)
      if n % 4 = 0 then some [UInt8.ofNat (n / 1024), UInt8.ofNat (n / 4)] else none) := by
  rw [decode]
  exact full

theorem decode_encode (bytes : List UInt8) : decode (encode bytes) = some bytes := by
  fun_induction encode bytes with
  | case1 => rfl
  | case2 a n =>
    have below := a.toNat_lt
    have whole : n / 64 * 64 + n % 64 = n := by omega
    have byte : UInt8.ofNat (n / 16) = a := ofNat_eq (by omega)
    simp only [decode, value?_digit (show n / 64 < 64 by omega),
      value?_digit (show n % 64 < 64 by omega), bind, Option.bind, whole]
    rw [if_pos (by omega), byte]
  | case3 a b n =>
    have below := a.toNat_lt
    have below' := b.toNat_lt
    have whole : (n / 4096 * 64 + n / 64 % 64) * 64 + n % 64 = n := by omega
    have first : UInt8.ofNat (n / 1024) = a := ofNat_eq (by omega)
    have second : UInt8.ofNat (n / 4) = b := ofNat_eq (by omega)
    rw [decode_triple (digit_ne_padding (by omega)), value?_digit (by omega),
      value?_digit (by omega), value?_digit (by omega)]
    simp only [bind, Option.bind, whole]
    rw [if_pos (by omega), first, second]
  | case4 a b c rest n ih =>
    have below := a.toNat_lt
    have below' := b.toNat_lt
    have below'' := c.toNat_lt
    have whole : ((n / 262144 * 64 + n / 4096 % 64) * 64 + n / 64 % 64) * 64 + n % 64 = n := by
      omega
    have first : UInt8.ofNat (n / 65536) = a := ofNat_eq (by omega)
    have second : UInt8.ofNat (n / 256) = b := ofNat_eq (by omega)
    have third : UInt8.ofNat n = c := ofNat_eq (by omega)
    rw [decode_quad (digit_ne_padding (by omega)), value?_digit (by omega),
      value?_digit (by omega), value?_digit (by omega), value?_digit (by omega), ih]
    simp only [bind, Option.bind, whole, first, second, third]
    rfl

/-- The bits that no byte takes are zero in what is decoded, so the bytes have all that was
there. -/
theorem eq_encode_of_decode {cs : List Char} {bytes : List UInt8}
    (decoded : decode cs = some bytes) : cs = encode bytes := by
  fun_induction decode cs generalizing bytes with
  | case1 =>
    cases decoded
    rfl
  | case2 a b =>
    simp only [bind, Option.bind_eq_some_iff] at decoded
    obtain ⟨x, first, y, second, decoded⟩ := decoded
    obtain ⟨small, rfl⟩ := eq_digit_of_value? first
    obtain ⟨small', rfl⟩ := eq_digit_of_value? second
    split at decoded
    · rename_i rest
      cases decoded
      exact (encode_single small small' rest).symm
    · cases decoded
  | case3 a b c =>
    simp only [bind, Option.bind_eq_some_iff] at decoded
    obtain ⟨x, first, y, second, z, third, decoded⟩ := decoded
    obtain ⟨small, rfl⟩ := eq_digit_of_value? first
    obtain ⟨small', rfl⟩ := eq_digit_of_value? second
    obtain ⟨small'', rfl⟩ := eq_digit_of_value? third
    split at decoded
    · rename_i rest
      cases decoded
      exact (encode_pair small small' small'' rfl rest).symm
    · cases decoded
  | case4 a b c d rest _ _ ih =>
    simp only [bind, Option.bind_eq_some_iff] at decoded
    obtain ⟨x, first, y, second, z, third, w, fourth, bytes', later, decoded⟩ := decoded
    obtain ⟨small, rfl⟩ := eq_digit_of_value? first
    obtain ⟨small', rfl⟩ := eq_digit_of_value? second
    obtain ⟨small'', rfl⟩ := eq_digit_of_value? third
    obtain ⟨last, rfl⟩ := eq_digit_of_value? fourth
    cases decoded
    rw [encode_triple small small' small'' last rfl, ih later]
  | case5 => cases decoded

/-- Each byte string has one written form, and nothing else is read. -/
theorem decode_eq_some_iff {cs : List Char} {bytes : List UInt8} :
    decode cs = some bytes ↔ cs = encode bytes := by
  refine ⟨eq_encode_of_decode, ?_⟩
  rintro rfl
  exact decode_encode bytes

end MachineFleet.Base64
