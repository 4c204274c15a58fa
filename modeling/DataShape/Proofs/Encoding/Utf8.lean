import DataShape.Encoding.Utf8

/-! A stored text is read back as it was: each character from its own bytes, whatever follows them. -/

namespace DataShape.Encoding

/-- A byte that carries six bits of a character. -/
def follower (bits : Nat) : UInt8 := UInt8.ofNat (bits % 64 + 128)

theorem toNat_follower (bits : Nat) : (follower bits).toNat = bits % 64 + 128 :=
  UInt8.toNat_ofNat_of_lt' (by show _ < 256; omega)

theorem followTail_follower {code right left bits : Nat} {least most : UInt8} {bs : List UInt8}
    (hleast : least.toNat ≤ bits % 64 + 128) (hmost : bits % 64 + 128 ≤ most.toNat) :
    followTail code right ⟨left + 1, least, most⟩ (follower bits :: bs) =
      followTail (code * 64 + bits % 64) (right + 1) ⟨left, 0x80, 0xbf⟩ bs := by
  have hin : least ≤ follower bits ∧ follower bits ≤ most := by
    simp only [UInt8.le_iff_toNat_le, toNat_follower]
    exact ⟨hleast, hmost⟩
  rw [followTail]
  simp only [if_pos hin, toNat_follower]
  congr 2
  omega

theorem followTail_zero {code right : Nat} {least most : UInt8} {bs : List UInt8} :
    followTail code right ⟨0, least, most⟩ bs = .ok code := by
  rw [followTail]

theorem toNat_ofNat_of_lt {n : Nat} (h : n < 256) : (UInt8.ofNat n).toNat = n := UInt8.toNat_ofNat_of_lt' h

theorem tail?_one {n : Nat} (h : n < 0x80) : tail? (UInt8.ofNat n) = some ⟨0, 0x80, 0xbf⟩ := by
  have hn : (UInt8.ofNat n).toNat = n := toNat_ofNat_of_lt (by omega)
  simp only [tail?, UInt8.lt_iff_toNat_lt, hn]
  exact if_pos h

theorem tail?_two {n : Nat} (hleast : 0xc2 ≤ n) (hmost : n < 0xe0) :
    tail? (UInt8.ofNat n) = some ⟨1, 0x80, 0xbf⟩ := by
  have hn : (UInt8.ofNat n).toNat = n := toNat_ofNat_of_lt (by omega)
  simp only [tail?, UInt8.lt_iff_toNat_lt, hn]
  rw [if_neg (by show ¬ n < 0x80; omega), if_neg (by show ¬ n < 0xc2; omega)]
  exact if_pos hmost

theorem tail?_three {n : Nat} (hleast : 0xe0 ≤ n) (hmost : n < 0xf0) :
    tail? (UInt8.ofNat n) = some ⟨2, if n = 0xe0 then 0xa0 else 0x80, if n = 0xed then 0x9f else 0xbf⟩ := by
  have hn : (UInt8.ofNat n).toNat = n := toNat_ofNat_of_lt (by omega)
  simp only [tail?, UInt8.lt_iff_toNat_lt, ← UInt8.toNat_inj, hn]
  rw [if_neg (by show ¬ n < 0x80; omega), if_neg (by show ¬ n < 0xc2; omega), if_neg (by show ¬ n < 0xe0; omega)]
  by_cases hfirst : n = 0xe0
  · simp [hfirst]
  · by_cases hhalves : n = 0xed
    · simp [hhalves]
    · simp [hfirst, hhalves, hmost]

theorem tail?_four {n : Nat} (hleast : 0xf0 ≤ n) (hmost : n ≤ 0xf4) :
    tail? (UInt8.ofNat n) = some ⟨3, if n = 0xf0 then 0x90 else 0x80, if n = 0xf4 then 0x8f else 0xbf⟩ := by
  have hn : (UInt8.ofNat n).toNat = n := toNat_ofNat_of_lt (by omega)
  obtain rfl | rfl | rfl | rfl | rfl : n = 0xf0 ∨ n = 0xf1 ∨ n = 0xf2 ∨ n = 0xf3 ∨ n = 0xf4 := by omega
  all_goals decide

theorem scanUtf8_of_tail {n length code : Nat} {least most : UInt8} {bs : List UInt8}
    (htail : tail? (UInt8.ofNat n) = some ⟨length, least, most⟩)
    (hcode : followTail (leadBits (UInt8.ofNat n) length) 1 ⟨length, least, most⟩ bs = .ok code) :
    scanUtf8 false (UInt8.ofNat n) bs = .ok (code, length + 1) := by
  simp only [scanUtf8, htail, hcode, Bool.false_eq_true, if_false]

theorem leadBits_ofNat {n length : Nat} (hn : n < 256) (hlength : length ≠ 0) :
    leadBits (UInt8.ofNat n) length = n % Nat.pow 2 (6 - length) := by
  rw [leadBits, if_neg hlength, toNat_ofNat_of_lt hn]

theorem scanUtf8_one {n : Nat} (h : n < 0x80) (bs : List UInt8) :
    scanUtf8 false (UInt8.ofNat n) bs = .ok (n, 1) := by
  refine scanUtf8_of_tail (tail?_one h) ?_
  rw [followTail_zero, leadBits, if_pos rfl, toNat_ofNat_of_lt (by omega)]

theorem scanUtf8_two {n : Nat} (hleast : 0x80 ≤ n) (hmost : n ≤ 0x7ff) (bs : List UInt8) :
    scanUtf8 false (UInt8.ofNat (n / 64 % 32 + 192)) (follower n :: bs) = .ok (n, 2) := by
  have hlead : leadBits (UInt8.ofNat (n / 64 % 32 + 192)) 1 = n / 64 := by
    rw [leadBits_ofNat (by omega) (by decide)]
    show (n / 64 % 32 + 192) % 32 = _
    omega
  refine scanUtf8_of_tail (tail?_two (by omega) (by omega)) ?_
  rw [hlead, followTail_follower (by show 128 ≤ _; omega) (by show _ ≤ 191; omega), followTail_zero]
  congr 1
  omega

theorem scanUtf8_three {n : Nat} (hleast : 0x800 ≤ n) (hmost : n ≤ 0xffff)
    (hvalid : n < 0xd800 ∨ 0xdfff < n) (bs : List UInt8) :
    scanUtf8 false (UInt8.ofNat (n / 4096 % 16 + 224)) (follower (n / 64) :: follower n :: bs) = .ok (n, 3) := by
  have hlead : leadBits (UInt8.ofNat (n / 4096 % 16 + 224)) 2 = n / 4096 := by
    rw [leadBits_ofNat (by omega) (by decide)]
    show (n / 4096 % 16 + 224) % 16 = _
    omega
  refine scanUtf8_of_tail (tail?_three (by omega) (by omega)) ?_
  rw [hlead, followTail_follower, followTail_follower (by show 128 ≤ _; omega) (by show _ ≤ 191; omega),
    followTail_zero]
  · congr 1
    omega
  · split
    · show 160 ≤ _
      omega
    · show 128 ≤ _
      omega
  · split
    · show _ ≤ 159
      omega
    · show _ ≤ 191
      omega

theorem scanUtf8_four {n : Nat} (hleast : 0x10000 ≤ n) (hmost : n < 0x110000) (bs : List UInt8) :
    scanUtf8 false (UInt8.ofNat (n / 262144 % 8 + 240))
      (follower (n / 4096) :: follower (n / 64) :: follower n :: bs) = .ok (n, 4) := by
  have hlead : leadBits (UInt8.ofNat (n / 262144 % 8 + 240)) 3 = n / 262144 := by
    rw [leadBits_ofNat (by omega) (by decide)]
    show (n / 262144 % 8 + 240) % 8 = _
    omega
  refine scanUtf8_of_tail (tail?_four (by omega) (by omega)) ?_
  rw [hlead, followTail_follower, followTail_follower (by show 128 ≤ _; omega) (by show _ ≤ 191; omega),
    followTail_follower (by show 128 ≤ _; omega) (by show _ ≤ 191; omega), followTail_zero]
  · congr 1
    omega
  · split
    · show 144 ≤ _
      omega
    · show 128 ≤ _
      omega
  · split
    · show _ ≤ 143
      omega
    · show _ ≤ 191
      omega

theorem scanUtf8_encode (c : Char) (bs : List UInt8) :
    ∃ lead tail, String.utf8EncodeChar c = lead :: tail ∧
      scanUtf8 false lead (tail ++ bs) = .ok (c.toNat, tail.length + 1) := by
  have hvalid : c.toNat < 0xd800 ∨ (0xdfff < c.toNat ∧ c.toNat < 0x110000) := c.valid
  have hval : c.val.toNat = c.toNat := rfl
  unfold String.utf8EncodeChar
  simp only [hval]
  split
  · exact ⟨_, _, rfl, scanUtf8_one (by omega) bs⟩
  · split
    · exact ⟨_, _, rfl, scanUtf8_two (by omega) (by omega) bs⟩
    · split
      · exact ⟨_, _, rfl, scanUtf8_three (by omega) (by omega) (by omega) bs⟩
      · exact ⟨_, _, rfl, scanUtf8_four (by omega) (by omega) bs⟩

theorem utf8From_skip {halves : Bool} {start : Nat} (tail bs : List UInt8) :
    utf8From halves tail.length start (tail ++ bs) = utf8From halves 0 (start + tail.length) bs := by
  induction tail generalizing start with
  | nil => rfl
  | cons b tail ih =>
    rw [List.length_cons, List.cons_append, utf8From, ih]
    congr 1
    omega

theorem utf8From_encode (cs : List Char) (start : Nat) : utf8From false 0 start (encodeUtf8 cs) = .ok cs := by
  induction cs generalizing start with
  | nil => rfl
  | cons c cs ih =>
    obtain ⟨lead, tail, hbytes, hscan⟩ := scanUtf8_encode c (encodeUtf8 cs)
    have hencode : encodeUtf8 (c :: cs) = lead :: (tail ++ encodeUtf8 cs) := by
      rw [encodeUtf8, List.flatMap_cons, hbytes]
      rfl
    rw [hencode, utf8From]
    simp only [hscan, Nat.add_sub_cancel, utf8From_skip, ih, charOfCode_toNat]
    rfl

/-- A stored text is read back as it was. -/
theorem decodeUtf8_encodeUtf8 (cs : List Char) : decodeUtf8 false (encodeUtf8 cs) = .ok cs :=
  utf8From_encode cs 0

end DataShape.Encoding
