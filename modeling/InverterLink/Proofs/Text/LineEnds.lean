import InverterLink.Proofs.Text.Digits
import InverterLink.Text.Quoted
import Mathlib.Data.List.Infix

/-!
# Texts without line ends

A line end is a carriage return with a line feed behind it. Most of what is shown holds no carriage
return at all, and neither does what is put together from such parts. Where any text may stand, it
is line ends that matter, and both ways between texts and bytes keep them: encoding makes none, and
reading makes none, since every byte of a longer character is too large for a control character and
a malformed piece becomes a character that stands between its neighbours.

## Main definitions

* `IsPlain`: a text without a carriage return.
* `HasLineEnd`: a text with a line end somewhere in it.
-/

namespace InverterLink

variable {cs ds : List Char}

/-! ### Texts without carriage returns -/

/-- A text without a carriage return. -/
def IsPlain (cs : List Char) : Prop :=
  '\r' ∉ cs

instance (cs : List Char) : Decidable (IsPlain cs) :=
  inferInstanceAs (Decidable ('\r' ∉ cs))

theorem isPlain_nil : IsPlain [] :=
  List.not_mem_nil

theorem isPlain_cons {c : Char} : IsPlain (c :: cs) ↔ c ≠ '\r' ∧ IsPlain cs := by
  rw [IsPlain, List.mem_cons, not_or, ne_comm]
  rfl

theorem isPlain_append : IsPlain (cs ++ ds) ↔ IsPlain cs ∧ IsPlain ds := by
  rw [IsPlain, List.mem_append, not_or]
  rfl

/-- A text that is written out is plain if its characters are. Looking at the characters is quicker
than reading them back from the bytes of the text. -/
theorem isPlain_ofList (h : IsPlain cs) : IsPlain (String.ofList cs).toList := by
  rwa [String.toList_ofList]

/-- Texts that are put together are plain if both are. -/
theorem isPlain_toList_append {s t : String} :
    IsPlain (s ++ t).toList ↔ IsPlain s.toList ∧ IsPlain t.toList := by
  rw [String.toList_append, isPlain_append]

theorem IsPlain.of_subset (h : IsPlain ds) (hsub : cs ⊆ ds) : IsPlain cs := fun hmem =>
  h (hsub hmem)

theorem isPlain_flatMap {α : Type} {f : α → List Char} {as : List α}
    (h : ∀ a ∈ as, IsPlain (f a)) : IsPlain (as.flatMap f) := by
  intro hmem
  obtain ⟨a, ha, hmem⟩ := List.mem_flatMap.mp hmem
  exact h a ha hmem

/-- Digits are plain. -/
theorem isPlain_of_isDigit (h : ∀ c ∈ cs, c.isDigit = true) : IsPlain cs := fun hmem =>
  absurd (h _ hmem) (by decide)

theorem Digits.isPlain_write (n : Nat) : IsPlain (Digits.write n) :=
  isPlain_of_isDigit fun _ => Nat.isDigit_of_mem_toDigits (by decide) (by decide)

theorem Digits.isPlain_writePadded (width n : Nat) : IsPlain (Digits.writePadded width n) :=
  isPlain_of_isDigit fun _ => Digits.isDigit_of_mem_writePadded

/-- A number in a message is plain. -/
theorem isPlain_toString (n : Nat) : IsPlain (toString n).toList := by
  rw [Nat.toString_eq_ofList_toDigits]
  exact isPlain_ofList (Digits.isPlain_write n)

theorem isPlain_hexadecimal (n : Nat) : IsPlain (Nat.toDigits 16 n) := by
  induction n using Nat.strongRecOn with
  | _ n ih =>
    have hdigit : ∀ d < 16, IsPlain [Nat.digitChar d] := by decide
    rw [Nat.toDigits_eq_if (by decide)]
    split_ifs with hsmall
    · exact hdigit n hsmall
    · exact isPlain_append.mpr ⟨ih _ (by omega), hdigit _ (Nat.mod_lt _ (by decide))⟩

theorem Digits.isPlain_writeHex (width n : Nat) : IsPlain (Digits.writeHex width n) := by
  rw [Digits.writeHex, List.leftpad, isPlain_append]
  refine ⟨fun hmem => ?_, isPlain_hexadecimal n⟩
  exact absurd (List.eq_of_mem_replicate hmem) (by decide)

/-- A carriage return between quotation marks is shown by a letter. -/
theorem Quoted.isPlain_escape (c : Char) : IsPlain (Quoted.escape c) := by
  rw [Quoted.escape.eq_def]
  split
  case h_7 hreturn _ _ =>
    split_ifs
    · exact isPlain_append.mpr ⟨isPlain_append.mpr ⟨by decide, isPlain_hexadecimal _⟩, by decide⟩
    · exact isPlain_cons.mpr ⟨hreturn, isPlain_nil⟩
  all_goals decide

theorem Quoted.isPlain_quote (cs : List Char) : IsPlain (Quoted.quote cs) := by
  rw [Quoted.quote, isPlain_append, isPlain_cons]
  exact ⟨⟨by decide, isPlain_flatMap fun c _ => isPlain_escape c⟩, by decide⟩

/-! ### Texts without line ends -/

/-- A text with a carriage return and a line feed behind it. -/
def HasLineEnd (cs : List Char) : Prop :=
  ['\r', '\n'] <:+: cs

theorem IsPlain.not_hasLineEnd (h : IsPlain cs) : ¬ HasLineEnd cs := fun hend =>
  h (hend.subset List.mem_cons_self)

/-- A text without a carriage return makes no line end with what stands behind it. -/
theorem IsPlain.hasLineEnd_append (h : IsPlain cs) : HasLineEnd (cs ++ ds) ↔ HasLineEnd ds := by
  induction cs with
  | nil => rfl
  | cons c cs ih =>
    obtain ⟨hc, hcs⟩ := isPlain_cons.mp h
    rw [HasLineEnd, List.cons_append, List.infix_cons_iff, List.cons_prefix_cons]
    constructor
    · rintro (⟨rfl, -⟩ | hbehind)
      · exact absurd rfl hc
      · exact (ih hcs).mp hbehind
    · exact fun hbehind => .inr ((ih hcs).mpr hbehind)

/-! ### Parts of texts -/

theorem isInfix_intercalate {between part : List Char} {parts : List (List Char)}
    (h : part ∈ parts) : part <:+: between.intercalate parts := by
  induction parts with
  | nil => exact absurd h List.not_mem_nil
  | cons first parts ih =>
    cases parts with
    | nil =>
      obtain rfl := List.mem_singleton.mp h
      rw [List.intercalate_singleton]
    | cons second parts =>
      rw [List.intercalate_cons_cons]
      obtain rfl | hbehind := List.mem_cons.mp h
      · exact (List.prefix_append _ _).isInfix.trans (List.prefix_append _ _).isInfix
      · exact (ih hbehind).trans (List.suffix_append _ _).isInfix

/-- What stands between separators is a part of the text. -/
theorem isInfix_of_mem_splitOn {part : List Char} {separator : Char}
    (h : part ∈ cs.splitOn separator) : part <:+: cs := by
  have hinfix : part <:+: [separator].intercalate (cs.splitOn separator) := isInfix_intercalate h
  rwa [List.intercalate_splitOn] at hinfix

namespace Utf8

/-! ### Encoding -/

/-- The bytes of a character are those below 0x80 only if it is one itself. -/
theorem encodeChar_cases (c : Char) :
    (c.toNat < 0x80 ∧ String.utf8EncodeChar c = [UInt8.ofNat c.toNat]) ∨
      ∀ byte ∈ String.utf8EncodeChar c, 0x80 ≤ byte.toNat := by
  obtain hlow | hhigh := Nat.lt_or_ge c.toNat 0x80
  · refine .inl ⟨hlow, ?_⟩
    rw [String.utf8EncodeChar]
    exact if_pos (Nat.le_of_lt_succ hlow)
  · refine .inr fun byte hbyte => ?_
    by_contra hsmall
    have heq := (mem_encodeChar_iff (Nat.lt_of_not_le hsmall) c).mp hbyte
    omega

/-- The bytes of a plain text hold no carriage return. -/
theorem forall_ne_of_isPlain (h : IsPlain cs) : ∀ byte ∈ encode cs, byte ≠ 0x0D := by
  rintro byte hbyte rfl
  exact h ((mem_encode_iff (by decide) cs).mp hbyte)

/-- Bytes that no line end begins with come in front of one without becoming a part of it. -/
theorem infix_append_of_forall_ne {bytes behind : List UInt8} (h : ∀ byte ∈ bytes, byte ≠ 0x0D) :
    [0x0D, 0x0A] <:+: bytes ++ behind ↔ [0x0D, 0x0A] <:+: behind := by
  induction bytes with
  | nil => rfl
  | cons byte bytes ih =>
    obtain ⟨hbyte, hbytes⟩ := List.forall_mem_cons.mp h
    rw [List.cons_append, List.infix_cons_iff, List.cons_prefix_cons, ih hbytes]
    exact or_iff_right fun hfront => hbyte hfront.1.symm

/-- A text whose bytes begin with a line feed begins with one. -/
theorem lineFeed_of_encode (h : [0x0A] <+: encode cs) : ['\n'] <+: cs := by
  cases cs with
  | nil => exact absurd (List.prefix_nil.mp h) (by decide)
  | cons c cs =>
    rw [encode_cons] at h
    obtain ⟨hlow, hone⟩ | hhigh := encodeChar_cases c
    · rw [hone, List.singleton_append, List.cons_prefix_cons] at h
      have hc := congrArg UInt8.toNat h.1
      rw [toNat_ofNat_of_lt (by omega)] at hc
      obtain rfl : '\n' = c := Char.toNat_inj.mp hc
      exact List.prefix_append ['\n'] cs
    · have hne : String.utf8EncodeChar c ≠ [] := by simp
      obtain ⟨byte, rest, hbytes⟩ := List.exists_cons_of_ne_nil hne
      rw [hbytes, List.cons_append, List.cons_prefix_cons] at h
      have hbyte := hhigh byte (hbytes ▸ List.mem_cons_self)
      rw [← h.1] at hbyte
      exact absurd hbyte (by decide)

/-- **Encoding makes no line ends.** -/
theorem hasLineEnd_of_encode (h : [0x0D, 0x0A] <:+: encode cs) : HasLineEnd cs := by
  induction cs with
  | nil => exact absurd (List.infix_nil.mp h) (by decide)
  | cons c cs ih =>
    rw [encode_cons] at h
    obtain ⟨hlow, hone⟩ | hhigh := encodeChar_cases c
    · rw [hone, List.singleton_append, List.infix_cons_iff, List.cons_prefix_cons] at h
      rw [HasLineEnd, List.infix_cons_iff, List.cons_prefix_cons]
      obtain ⟨hreturn, hfeed⟩ | hbehind := h
      · have hc := congrArg UInt8.toNat hreturn
        rw [toNat_ofNat_of_lt (by omega)] at hc
        exact .inl ⟨Char.toNat_inj.mp hc, lineFeed_of_encode hfeed⟩
      · exact .inr (ih hbehind)
    · have hne : ∀ byte ∈ String.utf8EncodeChar c, byte ≠ 0x0D := by
        rintro byte hbyte rfl
        exact absurd (hhigh _ hbyte) (by decide)
      exact (ih ((infix_append_of_forall_ne hne).mp h)).trans (List.suffix_cons c cs).isInfix

/-! ### Reading -/

/-- A number above 0x7F is no ASCII character other than the one that stands for invalid numbers. -/
theorem toNat_ofNat_cases (n : Nat) : (Char.ofNat n).toNat = n ∨ (Char.ofNat n).toNat = 0 := by
  by_cases hvalid : n.isValidChar
  · rw [Char.ofNat, dif_pos hvalid]
    exact .inl rfl
  · rw [Char.ofNat, dif_neg hvalid]
    exact .inr rfl

/-- The character of a longer form is no control character. -/
theorem not_control_of_ofNat {n : Nat} (h : 0x80 ≤ n) {c : Char} (hc : Char.ofNat n = c)
    (hpos : 0 < c.toNat) : ¬ c.toNat < 0x80 := by
  obtain hsame | hzero := toNat_ofNat_cases n
  · rw [← hc, hsame]
    omega
  · rw [← hc, hzero] at hpos
    omega

/-- **The first piece of some bytes.** It stands for bytes in front, and if it is an ASCII
character, then for the first byte alone. -/
theorem pieces_cons (b₀ : UInt8) (rest : List UInt8) :
    ∃ piece behind, pieces (b₀ :: rest) = piece :: pieces behind ∧ behind <:+ rest ∧
      ∀ c, piece = some c → 0 < c.toNat → c.toNat < 0x80 → b₀.toNat = c.toNat ∧ behind = rest := by
  -- a malformed piece is no character, and a longer form is none below 0x80
  have hmalformed {behind : List UInt8} : ∀ c, (none : Option Char) = some c → 0 < c.toNat →
      c.toNat < 0x80 → b₀.toNat = c.toNat ∧ behind = rest := nofun
  have hlonger {n : Nat} {behind : List UInt8} (hn : 0x80 ≤ n) : ∀ c, some (Char.ofNat n) = some c →
      0 < c.toNat → c.toNat < 0x80 → b₀.toNat = c.toNat ∧ behind = rest := fun c hc hpos hlow =>
    absurd hlow (not_control_of_ofNat hn (Option.some.inj hc) hpos)
  rw [pieces.eq_def]
  dsimp only
  split_ifs with hone hlead htwo hthree
  · refine ⟨_, rest, rfl, List.suffix_rfl, fun c hc _ _ => ⟨?_, rfl⟩⟩
    rw [← Option.some.inj hc, Char.ofNat, dif_pos (Or.inl (by omega))]
    rfl
  · exact ⟨none, rest, rfl, List.suffix_rfl, hmalformed⟩
  all_goals rw [Bool.or_eq_true, decide_eq_true_iff, decide_eq_true_iff] at hlead
  · rcases rest with _ | ⟨b₁, rest₁⟩
    · exact ⟨none, [], rfl, List.suffix_rfl, hmalformed⟩
    · dsimp only
      split_ifs with h₁
      · exact ⟨none, _, rfl, List.suffix_rfl, hmalformed⟩
      · exact ⟨_, rest₁, rfl, List.suffix_cons _ _, hlonger (by omega)⟩
  · rcases rest with _ | ⟨b₁, _ | ⟨b₂, rest₂⟩⟩
    · exact ⟨none, [], rfl, List.suffix_rfl, hmalformed⟩
    · dsimp only
      split_ifs
      · exact ⟨none, _, rfl, List.suffix_rfl, hmalformed⟩
      · exact ⟨none, [], rfl, List.nil_suffix, hmalformed⟩
    · dsimp only
      split_ifs with h₁ h₂
      · exact ⟨none, _, rfl, List.suffix_rfl, hmalformed⟩
      · exact ⟨none, _, rfl, List.suffix_cons _ _, hmalformed⟩
      · rw [Bool.not_eq_true', Bool.not_eq_false] at h₁
        have hsecond := bounds_of_isTail h₁
        exact ⟨_, rest₂, rfl, List.suffix_append [b₁, b₂] _, hlonger (by omega)⟩
  · rcases rest with _ | ⟨b₁, _ | ⟨b₂, _ | ⟨b₃, rest₃⟩⟩⟩
    · exact ⟨none, [], rfl, List.suffix_rfl, hmalformed⟩
    · dsimp only
      split_ifs
      · exact ⟨none, _, rfl, List.suffix_rfl, hmalformed⟩
      · exact ⟨none, [], rfl, List.nil_suffix, hmalformed⟩
    · dsimp only
      split_ifs
      · exact ⟨none, _, rfl, List.suffix_rfl, hmalformed⟩
      · exact ⟨none, _, rfl, List.suffix_cons _ _, hmalformed⟩
      · exact ⟨none, [], rfl, List.nil_suffix, hmalformed⟩
    · dsimp only
      split_ifs with h₁ h₂ h₃
      · exact ⟨none, _, rfl, List.suffix_rfl, hmalformed⟩
      · exact ⟨none, _, rfl, List.suffix_cons _ _, hmalformed⟩
      · exact ⟨none, _, rfl, List.suffix_append [b₁, b₂] _, hmalformed⟩
      · rw [Bool.not_eq_true', Bool.not_eq_false] at h₁
        have hsecond := bounds_of_isTail h₁
        exact ⟨_, rest₃, rfl, List.suffix_append [b₁, b₂, b₃] _, hlonger (by omega)⟩

/-- An ASCII character that is read stands for a byte. -/
theorem mem_of_mem_pieces {bytes : List UInt8} {c : Char} (hpos : 0 < c.toNat)
    (hlow : c.toNat < 0x80) (h : some c ∈ pieces bytes) : UInt8.ofNat c.toNat ∈ bytes := by
  induction hlength : bytes.length using Nat.strongRecOn generalizing bytes with
  | _ length ih =>
    cases bytes with
    | nil => exact absurd h List.not_mem_nil
    | cons byte rest =>
      obtain ⟨piece, behind, hpieces, hsuffix, hascii⟩ := pieces_cons byte rest
      rw [hpieces, List.mem_cons] at h
      obtain hfirst | hbehind := h
      · obtain ⟨hbyte, -⟩ := hascii c hfirst.symm hpos hlow
        rw [← hbyte, UInt8.ofNat_toNat]
        exact List.mem_cons_self
      · have hshorter := hsuffix.length_le
        rw [List.length_cons] at hlength
        have hmem := ih behind.length (by omega) hbehind rfl
        exact List.mem_cons_of_mem byte (hsuffix.subset hmem)

/-- **Text that is read from bytes without carriage returns is plain.** -/
theorem isPlain_of_decode? {bytes : List UInt8} (h : decode? bytes = some cs)
    (hbytes : 0x0D ∉ bytes) : IsPlain cs := fun hmem =>
  hbytes (mem_of_mem_pieces (c := '\r') (by decide) (by decide)
    (pieces_of_decode? h ▸ List.mem_map_of_mem hmem))

theorem decodeLossy_cons {byte : UInt8} {rest behind : List UInt8} {piece : Option Char}
    (h : pieces (byte :: rest) = piece :: pieces behind) :
    decodeLossy (byte :: rest) = piece.getD '\uFFFD' :: decodeLossy behind := by
  rw [decodeLossy, h, List.map_cons]
  rfl

/-- The first character that is read, if it is ASCII, stands for the first byte. -/
theorem byte_of_getD_eq {byte : UInt8} {rest behind : List UInt8} {piece : Option Char} {c : Char}
    (hascii : ∀ c, piece = some c → 0 < c.toNat → c.toNat < 0x80 →
      byte.toNat = c.toNat ∧ behind = rest)
    (hpos : 0 < c.toNat) (hlow : c.toNat < 0x80) (h : c = piece.getD '\uFFFD') :
    UInt8.ofNat c.toNat = byte ∧ behind = rest := by
  cases piece with
  | none =>
    rw [h] at hlow
    exact absurd hlow (by decide)
  | some d =>
    obtain ⟨hbyte, hbehind⟩ := hascii c (congrArg some h.symm) hpos hlow
    exact ⟨by rw [← hbyte, UInt8.ofNat_toNat], hbehind⟩

theorem lineFeed_of_decodeLossy {bytes : List UInt8} (h : ['\n'] <+: decodeLossy bytes) :
    [0x0A] <+: bytes := by
  cases bytes with
  | nil => exact absurd (List.prefix_nil.mp h) (by decide)
  | cons byte rest =>
    obtain ⟨piece, behind, hpieces, -, hascii⟩ := pieces_cons byte rest
    rw [decodeLossy_cons hpieces, List.cons_prefix_cons] at h
    obtain ⟨hbyte, -⟩ := byte_of_getD_eq hascii (by decide) (by decide) h.1
    exact List.cons_prefix_cons.mpr ⟨hbyte, List.nil_prefix⟩

/-- **Reading makes no line ends.** -/
theorem infix_of_decodeLossy {bytes : List UInt8} (h : HasLineEnd (decodeLossy bytes)) :
    [0x0D, 0x0A] <:+: bytes := by
  induction hlength : bytes.length using Nat.strongRecOn generalizing bytes with
  | _ length ih =>
    cases bytes with
    | nil => exact absurd (List.infix_nil.mp h) (by decide)
    | cons byte rest =>
      obtain ⟨piece, behind, hpieces, hsuffix, hascii⟩ := pieces_cons byte rest
      rw [HasLineEnd, decodeLossy_cons hpieces, List.infix_cons_iff, List.cons_prefix_cons] at h
      rw [List.infix_cons_iff, List.cons_prefix_cons]
      obtain ⟨hreturn, hfeed⟩ | hbehind := h
      · obtain ⟨hbyte, rfl⟩ := byte_of_getD_eq hascii (by decide) (by decide) hreturn
        exact .inl ⟨hbyte, lineFeed_of_decodeLossy hfeed⟩
      · have hshorter := hsuffix.length_le
        rw [List.length_cons] at hlength
        exact .inr ((ih behind.length (by omega) hbehind rfl).trans hsuffix.isInfix)

end Utf8

end InverterLink
