import InverterLink.Text.Utf8
import Mathlib.Data.List.Basic

/-!
# Reading back what was encoded

The encoding of a text has as many bytes as `byteLength` counts, holds a byte below 0x80 only where
the text holds that character, and is cut by `pieces` into the characters of the text. Hence both
ways to read it give the text back, and a cut at the byte length of a first part finds that part.
Bytes that are no encoding have a malformed piece, so `decode?` reads encodings and nothing else.
-/

namespace InverterLink.Utf8

/-! ### Encodings -/

theorem encode_cons (c : Char) (cs : List Char) :
    encode (c :: cs) = String.utf8EncodeChar c ++ encode cs := rfl

theorem encode_append (cs ds : List Char) : encode (cs ++ ds) = encode cs ++ encode ds :=
  List.flatMap_append

theorem byteLength_append (cs ds : List Char) :
    byteLength (cs ++ ds) = byteLength cs + byteLength ds := by
  induction cs with
  | nil => simp [byteLength]
  | cons c cs ih => simp only [List.cons_append, byteLength, ih, Nat.add_assoc]

theorem eq_nil_of_byteLength_eq_zero {cs : List Char} (h : byteLength cs = 0) : cs = [] := by
  cases cs with
  | nil => rfl
  | cons c cs =>
    have hpos := c.utf8Size_pos
    rw [byteLength] at h
    omega

/-- The encoding of a text has the length that `byteLength` counts. -/
theorem length_encode (cs : List Char) : (encode cs).length = byteLength cs := by
  induction cs with
  | nil => rfl
  | cons c cs ih =>
    rw [encode_cons, List.length_append, String.length_utf8EncodeChar, ih, byteLength]

theorem toNat_ofNat_of_lt {n : Nat} (h : n < 256) : (UInt8.ofNat n).toNat = n := by
  rw [UInt8.toNat_ofNat', Nat.mod_eq_of_lt h]

/-- A byte below 0x80 occurs only in the encoding of the character of that number. -/
theorem mem_encodeChar_iff {b : UInt8} (hb : b.toNat < 0x80) (c : Char) :
    b ∈ String.utf8EncodeChar c ↔ c.toNat = b.toNat := by
  have hval : c.val.toNat = c.toNat := rfl
  have hbytes : ∀ n, n < 256 → (b = UInt8.ofNat n ↔ b.toNat = n) := fun n hn => by
    rw [← UInt8.toNat_inj, toNat_ofNat_of_lt hn]
  simp only [String.utf8EncodeChar, hval]
  split_ifs with hone htwo hthree
  · rw [List.mem_singleton, hbytes _ (by omega)]
    omega
  · rw [List.mem_cons, List.mem_singleton, hbytes _ (by omega), hbytes _ (by omega)]
    omega
  · rw [List.mem_cons, List.mem_cons, List.mem_singleton, hbytes _ (by omega),
      hbytes _ (by omega), hbytes _ (by omega)]
    omega
  · rw [List.mem_cons, List.mem_cons, List.mem_cons, List.mem_singleton, hbytes _ (by omega),
      hbytes _ (by omega), hbytes _ (by omega), hbytes _ (by omega)]
    omega

/-- A byte below 0x80 occurs in an encoding exactly where its character occurs in the text. -/
theorem mem_encode_iff {b : UInt8} (hb : b.toNat < 0x80) (cs : List Char) :
    b ∈ encode cs ↔ Char.ofNat b.toNat ∈ cs := by
  have hnat : (Char.ofNat b.toNat).toNat = b.toNat := by
    rw [Char.ofNat, dif_pos (Or.inl (by omega))]
    rfl
  rw [encode, List.mem_flatMap]
  constructor
  · rintro ⟨c, hc, hbc⟩
    rwa [← (mem_encodeChar_iff hb c).mp hbc, Char.ofNat_toNat]
  · intro h
    exact ⟨_, h, (mem_encodeChar_iff hb _).mpr hnat⟩

/-! ### Pieces of an encoding -/

theorem isTail_iff {low high : Nat} {b : UInt8} :
    isTail low high b ↔ low ≤ b.toNat ∧ b.toNat ≤ high := by
  simp [isTail]

theorem pieces_one {b₀ : UInt8} (rest : List UInt8) (h₀ : b₀.toNat < 0x80) :
    pieces (b₀ :: rest) = some (Char.ofNat b₀.toNat) :: pieces rest := by
  rw [pieces.eq_def]
  exact if_pos h₀

theorem pieces_two {b₀ b₁ : UInt8} (rest : List UInt8) (hlow : 0xC2 ≤ b₀.toNat)
    (hhigh : b₀.toNat < 0xE0) (h₁ : isTail (leastSecond b₀.toNat) (greatestSecond b₀.toNat) b₁) :
    pieces (b₀ :: b₁ :: rest) = some (join₂ b₀ b₁) :: pieces rest := by
  have hlead : (decide (b₀.toNat < 0xC2) || decide (0xF4 < b₀.toNat)) = false := by
    rw [Bool.or_eq_false_iff, decide_eq_false_iff_not, decide_eq_false_iff_not]
    omega
  rw [pieces.eq_def]
  simp only [hlead, h₁, if_neg (show ¬ b₀.toNat < 0x80 by omega), if_pos hhigh, Bool.not_true,
    Bool.false_eq_true, if_false]

theorem pieces_three {b₀ b₁ b₂ : UInt8} (rest : List UInt8) (hlow : 0xE0 ≤ b₀.toNat)
    (hhigh : b₀.toNat < 0xF0) (h₁ : isTail (leastSecond b₀.toNat) (greatestSecond b₀.toNat) b₁)
    (h₂ : isTail 0x80 0xBF b₂) :
    pieces (b₀ :: b₁ :: b₂ :: rest) = some (join₃ b₀ b₁ b₂) :: pieces rest := by
  have hlead : (decide (b₀.toNat < 0xC2) || decide (0xF4 < b₀.toNat)) = false := by
    rw [Bool.or_eq_false_iff, decide_eq_false_iff_not, decide_eq_false_iff_not]
    omega
  rw [pieces.eq_def]
  simp only [hlead, h₁, h₂, if_neg (show ¬ b₀.toNat < 0x80 by omega),
    if_neg (show ¬ b₀.toNat < 0xE0 by omega), if_pos hhigh, Bool.not_true, Bool.false_eq_true,
    if_false]

theorem pieces_four {b₀ b₁ b₂ b₃ : UInt8} (rest : List UInt8) (hlow : 0xF0 ≤ b₀.toNat)
    (hhigh : b₀.toNat ≤ 0xF4) (h₁ : isTail (leastSecond b₀.toNat) (greatestSecond b₀.toNat) b₁)
    (h₂ : isTail 0x80 0xBF b₂) (h₃ : isTail 0x80 0xBF b₃) :
    pieces (b₀ :: b₁ :: b₂ :: b₃ :: rest) = some (join₄ b₀ b₁ b₂ b₃) :: pieces rest := by
  have hlead : (decide (b₀.toNat < 0xC2) || decide (0xF4 < b₀.toNat)) = false := by
    rw [Bool.or_eq_false_iff, decide_eq_false_iff_not, decide_eq_false_iff_not]
    omega
  rw [pieces.eq_def]
  simp only [hlead, h₁, h₂, h₃, if_neg (show ¬ b₀.toNat < 0x80 by omega),
    if_neg (show ¬ b₀.toNat < 0xE0 by omega), if_neg (show ¬ b₀.toNat < 0xF0 by omega),
    Bool.not_true, Bool.false_eq_true, if_false]

/-- A character is the first piece of any bytes that begin with its encoding. -/
theorem pieces_encodeChar_append (c : Char) (rest : List UInt8) :
    pieces (String.utf8EncodeChar c ++ rest) = some c :: pieces rest := by
  have hvalid : c.toNat < 0xD800 ∨ 0xDFFF < c.toNat ∧ c.toNat < 0x110000 := c.valid
  have hc : Char.ofNat c.toNat = c := Char.ofNat_toNat c
  have hval : c.val.toNat = c.toNat := rfl
  simp only [String.utf8EncodeChar, hval]
  split_ifs with hone htwo hthree
  · have h₀ := toNat_ofNat_of_lt (show c.toNat < 256 by omega)
    rw [List.singleton_append, pieces_one rest (by omega), h₀, hc]
  · have h₀ := toNat_ofNat_of_lt (show c.toNat / 64 % 0x20 + 0xC0 < 256 by omega)
    have h₁ := toNat_ofNat_of_lt (show c.toNat % 0x40 + 0x80 < 256 by omega)
    rw [List.cons_append, List.singleton_append, pieces_two rest (by omega) (by omega), join₂,
      h₀, h₁]
    · rw [(congrArg Char.ofNat (by omega)).trans hc]
    · rw [isTail_iff, leastSecond, greatestSecond, h₀, h₁]
      split_ifs <;> omega
  · have h₀ := toNat_ofNat_of_lt (show c.toNat / 4096 % 0x10 + 0xE0 < 256 by omega)
    have h₁ := toNat_ofNat_of_lt (show c.toNat / 64 % 0x40 + 0x80 < 256 by omega)
    have h₂ := toNat_ofNat_of_lt (show c.toNat % 0x40 + 0x80 < 256 by omega)
    rw [List.cons_append, List.cons_append, List.singleton_append,
      pieces_three rest (by omega) (by omega), join₃, h₀, h₁, h₂]
    · rw [(congrArg Char.ofNat (by omega)).trans hc]
    · rw [isTail_iff, leastSecond, greatestSecond, h₀, h₁]
      split_ifs <;> omega
    · rw [isTail_iff, h₂]
      omega
  · have h₀ := toNat_ofNat_of_lt (show c.toNat / 262144 % 0x08 + 0xF0 < 256 by omega)
    have h₁ := toNat_ofNat_of_lt (show c.toNat / 4096 % 0x40 + 0x80 < 256 by omega)
    have h₂ := toNat_ofNat_of_lt (show c.toNat / 64 % 0x40 + 0x80 < 256 by omega)
    have h₃ := toNat_ofNat_of_lt (show c.toNat % 0x40 + 0x80 < 256 by omega)
    rw [List.cons_append, List.cons_append, List.cons_append, List.singleton_append,
      pieces_four rest (by omega) (by omega), join₄, h₀, h₁, h₂, h₃]
    · rw [(congrArg Char.ofNat (by omega)).trans hc]
    · rw [isTail_iff, leastSecond, greatestSecond, h₀, h₁]
      split_ifs <;> omega
    · rw [isTail_iff, h₂]
      omega
    · rw [isTail_iff, h₃]
      omega

theorem pieces_encode_append (cs : List Char) (rest : List UInt8) :
    pieces (encode cs ++ rest) = cs.map some ++ pieces rest := by
  induction cs with
  | nil => rfl
  | cons c cs ih =>
    rw [encode_cons, List.append_assoc, pieces_encodeChar_append, ih, List.map_cons,
      List.cons_append]

theorem pieces_encode (cs : List Char) : pieces (encode cs) = cs.map some := by
  have h := pieces_encode_append cs []
  rwa [List.append_nil, pieces, List.append_nil] at h

/-- Reading an encoding gives the text back. -/
theorem decode?_encode (cs : List Char) : decode? (encode cs) = some cs := by
  rw [decode?, pieces_encode, List.mapM_map]
  exact (List.mapM_pure (f := id)).trans (congrArg some (List.map_id cs))

/-- Texts with the same bytes are the same. -/
theorem eq_of_encode_eq {cs ds : List Char} (h : encode cs = encode ds) : cs = ds := by
  have hdecode := decode?_encode cs
  rw [h, decode?_encode] at hdecode
  exact (Option.some.inj hdecode).symm

/-! ### Bytes of characters -/

theorem toNat_ofNat {n : Nat} (h : n < 0xD800 ∨ 0xDFFF < n ∧ n < 0x110000) :
    (Char.ofNat n).toNat = n := by
  rw [Char.ofNat, dif_pos h]
  rfl

theorem ofNat_eq_iff {n : Nat} (h : n < 256) {b : UInt8} : UInt8.ofNat n = b ↔ n = b.toNat := by
  rw [← UInt8.toNat_inj, toNat_ofNat_of_lt h]

/-- The bounds of the second byte leave no shorter form, no surrogate and nothing beyond the last
code point. -/
theorem bounds_of_isTail {first : Nat} {b : UInt8}
    (h : isTail (leastSecond first) (greatestSecond first) b) :
    (0x80 ≤ b.toNat ∧ b.toNat ≤ 0xBF) ∧
      ((first = 0xE0 → 0xA0 ≤ b.toNat) ∧ (first = 0xED → b.toNat ≤ 0x9F)) ∧
      (first = 0xF0 → 0x90 ≤ b.toNat) ∧ (first = 0xF4 → b.toNat ≤ 0x8F) := by
  rw [isTail_iff, leastSecond, greatestSecond] at h
  split_ifs at h <;> omega

theorem encodeChar_one {b₀ : UInt8} (h₀ : b₀.toNat < 0x80) :
    String.utf8EncodeChar (Char.ofNat b₀.toNat) = [b₀] := by
  have hval : (Char.ofNat b₀.toNat).val.toNat = b₀.toNat := toNat_ofNat (by omega)
  simp only [String.utf8EncodeChar, hval]
  rw [if_pos (by omega), UInt8.ofNat_toNat]

theorem encodeChar_two {b₀ b₁ : UInt8} (hlow : 0xC2 ≤ b₀.toNat) (hhigh : b₀.toNat < 0xE0)
    (h₁ : isTail (leastSecond b₀.toNat) (greatestSecond b₀.toNat) b₁) :
    String.utf8EncodeChar (join₂ b₀ b₁) = [b₀, b₁] := by
  have hsecond := bounds_of_isTail h₁
  have hval : (join₂ b₀ b₁).val.toNat = (b₀.toNat - 0xC0) * 64 + (b₁.toNat - 0x80) :=
    toNat_ofNat (by omega)
  simp only [String.utf8EncodeChar, hval]
  rw [if_neg (by omega), if_pos (by omega), List.cons_eq_cons, List.cons_eq_cons,
    ofNat_eq_iff (by omega), ofNat_eq_iff (by omega)]
  refine ⟨?_, ?_, rfl⟩ <;> omega

theorem encodeChar_three {b₀ b₁ b₂ : UInt8} (hlow : 0xE0 ≤ b₀.toNat) (hhigh : b₀.toNat < 0xF0)
    (h₁ : isTail (leastSecond b₀.toNat) (greatestSecond b₀.toNat) b₁) (h₂ : isTail 0x80 0xBF b₂) :
    String.utf8EncodeChar (join₃ b₀ b₁ b₂) = [b₀, b₁, b₂] := by
  have hsecond := bounds_of_isTail h₁
  rw [isTail_iff] at h₂
  have hval : (join₃ b₀ b₁ b₂).val.toNat =
      (b₀.toNat - 0xE0) * 4096 + (b₁.toNat - 0x80) * 64 + (b₂.toNat - 0x80) :=
    toNat_ofNat (by omega)
  simp only [String.utf8EncodeChar, hval]
  rw [if_neg (by omega), if_neg (by omega), if_pos (by omega), List.cons_eq_cons,
    List.cons_eq_cons, List.cons_eq_cons, ofNat_eq_iff (by omega), ofNat_eq_iff (by omega),
    ofNat_eq_iff (by omega)]
  refine ⟨?_, ?_, ?_, rfl⟩ <;> omega

theorem encodeChar_four {b₀ b₁ b₂ b₃ : UInt8} (hlow : 0xF0 ≤ b₀.toNat) (hhigh : b₀.toNat ≤ 0xF4)
    (h₁ : isTail (leastSecond b₀.toNat) (greatestSecond b₀.toNat) b₁) (h₂ : isTail 0x80 0xBF b₂)
    (h₃ : isTail 0x80 0xBF b₃) :
    String.utf8EncodeChar (join₄ b₀ b₁ b₂ b₃) = [b₀, b₁, b₂, b₃] := by
  have hsecond := bounds_of_isTail h₁
  rw [isTail_iff] at h₂ h₃
  have hval : (join₄ b₀ b₁ b₂ b₃).val.toNat =
      (b₀.toNat - 0xF0) * 262144 + (b₁.toNat - 0x80) * 4096 + (b₂.toNat - 0x80) * 64 +
        (b₃.toNat - 0x80) :=
    toNat_ofNat (by omega)
  simp only [String.utf8EncodeChar, hval]
  rw [if_neg (by omega), if_neg (by omega), if_neg (by omega), List.cons_eq_cons,
    List.cons_eq_cons, List.cons_eq_cons, List.cons_eq_cons, ofNat_eq_iff (by omega),
    ofNat_eq_iff (by omega), ofNat_eq_iff (by omega), ofNat_eq_iff (by omega)]
  refine ⟨?_, ?_, ?_, ?_, rfl⟩ <;> omega

/-! ### Pieces of any bytes -/

/-- Bytes begin with the encoding of a character, or with a malformed piece. -/
theorem exists_append_or_malformed (b₀ : UInt8) (rest : List UInt8) :
    (∃ c behind, b₀ :: rest = String.utf8EncodeChar c ++ behind) ∨
      ∃ behind, pieces (b₀ :: rest) = none :: behind := by
  rw [pieces.eq_def]
  dsimp only
  split_ifs with hone hlead htwo hthree
  · exact .inl ⟨_, rest, by rw [encodeChar_one hone]; rfl⟩
  · exact .inr ⟨_, rfl⟩
  all_goals rw [Bool.or_eq_true, decide_eq_true_iff, decide_eq_true_iff] at hlead
  · rcases rest with _ | ⟨b₁, rest₁⟩
    · exact .inr ⟨_, rfl⟩
    · dsimp only
      split_ifs with h₁
      · exact .inr ⟨_, rfl⟩
      · rw [Bool.not_eq_true', Bool.not_eq_false] at h₁
        exact .inl ⟨_, rest₁, by rw [encodeChar_two (by omega) htwo h₁]; rfl⟩
  · rcases rest with _ | ⟨b₁, _ | ⟨b₂, rest₂⟩⟩
    · exact .inr ⟨_, rfl⟩
    · dsimp only
      split_ifs <;> exact .inr ⟨_, rfl⟩
    · dsimp only
      split_ifs with h₁ h₂
      · exact .inr ⟨_, rfl⟩
      · exact .inr ⟨_, rfl⟩
      · rw [Bool.not_eq_true', Bool.not_eq_false] at h₁ h₂
        exact .inl ⟨_, rest₂, by rw [encodeChar_three (by omega) hthree h₁ h₂]; rfl⟩
  · rcases rest with _ | ⟨b₁, _ | ⟨b₂, _ | ⟨b₃, rest₃⟩⟩⟩
    · exact .inr ⟨_, rfl⟩
    · dsimp only
      split_ifs <;> exact .inr ⟨_, rfl⟩
    · dsimp only
      split_ifs <;> exact .inr ⟨_, rfl⟩
    · dsimp only
      split_ifs with h₁ h₂ h₃
      · exact .inr ⟨_, rfl⟩
      · exact .inr ⟨_, rfl⟩
      · exact .inr ⟨_, rfl⟩
      · rw [Bool.not_eq_true', Bool.not_eq_false] at h₁ h₂ h₃
        exact .inl ⟨_, rest₃, by rw [encodeChar_four (by omega) (by omega) h₁ h₂ h₃]; rfl⟩

theorem pieces_of_decode? {bytes : List UInt8} {cs : List Char} (h : decode? bytes = some cs) :
    pieces bytes = cs.map some := by
  rw [decode?] at h
  generalize pieces bytes = found at h ⊢
  induction found generalizing cs with
  | nil =>
    obtain rfl := Option.some.inj h
    rfl
  | cons piece found ih =>
    rw [List.mapM_cons] at h
    obtain ⟨c, hc, h⟩ := Option.bind_eq_some_iff.mp h
    obtain ⟨rest, hrest, h⟩ := Option.bind_eq_some_iff.mp h
    obtain rfl := Option.some.inj h
    rw [List.map_cons, ih hrest]
    exact congrArg (· :: rest.map some) hc

/-- Bytes that are all cut into characters are the encoding of these. -/
theorem encode_of_pieces {bytes : List UInt8} {cs : List Char} (h : pieces bytes = cs.map some) :
    encode cs = bytes := by
  induction cs generalizing bytes with
  | nil =>
    cases bytes with
    | nil => rfl
    | cons b₀ rest =>
      obtain ⟨c, behind, hbytes⟩ | ⟨behind, hmalformed⟩ := exists_append_or_malformed b₀ rest
      · rw [hbytes, pieces_encodeChar_append] at h
        cases h
      · rw [hmalformed] at h
        cases h
  | cons c cs ih =>
    cases bytes with
    | nil => cases h
    | cons b₀ rest =>
      obtain ⟨d, behind, hbytes⟩ | ⟨behind, hmalformed⟩ := exists_append_or_malformed b₀ rest
      · rw [hbytes, pieces_encodeChar_append] at h
        obtain ⟨hd, hbehind⟩ := List.cons_eq_cons.mp h
        rw [hbytes, encode_cons, ih hbehind, Option.some.inj hd]
      · rw [hmalformed] at h
        cases h

/-- **Bytes are read as a text exactly if they are its encoding.** -/
theorem decode?_eq_some_iff {bytes : List UInt8} {cs : List Char} :
    decode? bytes = some cs ↔ encode cs = bytes :=
  ⟨fun h => encode_of_pieces (pieces_of_decode? h), fun h => h ▸ decode?_encode cs⟩

/-! ### Cuts -/

/-- A cut at the byte length of a first part finds that part. -/
theorem takeBytes?_byteLength (cs rest : List Char) :
    takeBytes? (byteLength cs) (cs ++ rest) = some (cs, rest) := by
  induction cs with
  | nil => rw [byteLength, takeBytes?, List.nil_append]
  | cons c cs ih =>
    obtain ⟨n, hn⟩ : ∃ n, byteLength (c :: cs) = n + 1 :=
      ⟨byteLength (c :: cs) - 1, by
        have := c.utf8Size_pos
        simp only [byteLength]
        omega⟩
    have hsize : n + 1 = c.utf8Size + byteLength cs := hn.symm
    rw [hn, List.cons_append, takeBytes?, if_pos (by omega),
      show n + 1 - c.utf8Size = byteLength cs by omega, ih]
    rfl

/-- What is cut off and what follows it are the text. -/
theorem append_of_takeBytes? {n : Nat} {cs taken rest : List Char}
    (h : takeBytes? n cs = some (taken, rest)) : taken ++ rest = cs := by
  induction cs generalizing n taken with
  | nil =>
    cases n with
    | zero =>
      cases h
      rfl
    | succ n => cases h
  | cons c cs ih =>
    cases n with
    | zero =>
      cases h
      rfl
    | succ n =>
      rw [takeBytes?] at h
      split_ifs at h
      obtain ⟨⟨first, behind⟩, hcut, h⟩ := Option.map_eq_some_iff.mp h
      cases h
      rw [List.cons_append, ih hcut]

/-- What is cut off has as many bytes as were to be cut off. -/
theorem byteLength_of_takeBytes? {n : Nat} {cs taken rest : List Char}
    (h : takeBytes? n cs = some (taken, rest)) : byteLength taken = n := by
  induction cs generalizing n taken with
  | nil =>
    cases n with
    | zero =>
      cases h
      rfl
    | succ n => cases h
  | cons c cs ih =>
    cases n with
    | zero =>
      cases h
      rfl
    | succ n =>
      rw [takeBytes?] at h
      split_ifs at h with hroom
      obtain ⟨⟨first, behind⟩, hcut, h⟩ := Option.map_eq_some_iff.mp h
      cases h
      rw [byteLength, ih hcut, Nat.add_sub_cancel' hroom]

/-- A cut finds the parts of a text of which the first one has so many bytes. -/
theorem takeBytes?_eq_some_iff {n : Nat} {cs taken rest : List Char} :
    takeBytes? n cs = some (taken, rest) ↔ taken ++ rest = cs ∧ byteLength taken = n := by
  constructor
  · exact fun h => ⟨append_of_takeBytes? h, byteLength_of_takeBytes? h⟩
  · rintro ⟨rfl, rfl⟩
    exact takeBytes?_byteLength taken rest

end InverterLink.Utf8
