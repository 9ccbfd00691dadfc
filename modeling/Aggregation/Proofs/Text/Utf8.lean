/-
**Decoding what was encoded.**

Reading the bytes of a text gives the text back (`decode?_encode`), one character after the other:
the first byte announces how many follow and in which range the first of them is, and the rest is
arithmetic with 64. So bytes are those of one text at most (`Bytes.ofText_inj`). In the other
direction only sizes are needed: a text is never longer, in bytes, than what it was read from
(`length_encode_le`).
-/

import Aggregation.Bytes
import Mathlib.Algebra.Group.Nat.Defs
import Mathlib.Data.List.Basic

namespace Aggregation.Text.Utf8

/-! ### First bytes -/

theorem announced?_two {lead : Nat} (lower : 194 ≤ lead) (upper : lead ≤ 223) :
    announced? (.ofNat lead) = some (1, 0x80, 0xBF, lead - 192) := by
  have all : ∀ lead ∈ List.range' 194 30,
      announced? (.ofNat lead) = some (1, 0x80, 0xBF, lead - 192) := by decide +kernel
  exact all lead (by rw [List.mem_range'_1]; omega)

theorem announced?_three {lead : Nat} (lower : 224 ≤ lead) (upper : lead ≤ 239) :
    announced? (.ofNat lead) =
      some (2, if lead = 224 then 0xA0 else 0x80, if lead = 237 then 0x9F else 0xBF,
        lead - 224) := by
  have all : ∀ lead ∈ List.range' 224 16, announced? (.ofNat lead) =
      some (2, if lead = 224 then 0xA0 else 0x80, if lead = 237 then 0x9F else 0xBF,
        lead - 224) := by decide +kernel
  exact all lead (by rw [List.mem_range'_1]; omega)

theorem announced?_four {lead : Nat} (lower : 240 ≤ lead) (upper : lead ≤ 244) :
    announced? (.ofNat lead) =
      some (3, if lead = 240 then 0x90 else 0x80, if lead = 244 then 0x8F else 0xBF,
        lead - 240) := by
  have all : ∀ lead ∈ List.range' 240 5, announced? (.ofNat lead) =
      some (3, if lead = 240 then 0x90 else 0x80, if lead = 244 then 0x8F else 0xBF,
        lead - 240) := by decide +kernel
  exact all lead (by rw [List.mem_range'_1]; omega)

theorem not_ascii : ∀ lead < 256, 128 ≤ lead → ¬UInt8.ofNat lead < 0x80 := by decide +kernel

theorem continuation_cons (count : Nat) {low high : UInt8} {value byte : Nat} {rest : List UInt8}
    (small : byte < 256) (lower : low.toNat ≤ byte) (upper : byte ≤ high.toNat) :
    continuation (count + 1) low high value (UInt8.ofNat byte :: rest) =
      continuation count 0x80 0xBF (value * 64 + (byte - 0x80)) rest := by
  have exact : (UInt8.ofNat byte).toNat = byte := UInt8.toNat_ofNat_of_lt' small
  simp [continuation, UInt8.le_iff_toNat_le, exact, lower, upper]

/-- One more of the six-bit parts of a character is taken in. -/
theorem continuation_six (count value part : Nat) (small : part < 64) (rest : List UInt8) :
    continuation (count + 1) 0x80 0xBF value (UInt8.ofNat (part + 128) :: rest) =
      continuation count 0x80 0xBF (value * 64 + part) rest := by
  have upper : (0xBF : UInt8).toNat = 191 := rfl
  have lower : (0x80 : UInt8).toNat = 128 := rfl
  rw [continuation_cons count (by omega) (by omega) (by omega), Nat.add_sub_cancel]

/-! ### From texts to bytes and back -/

theorem step_one {v : Nat} (small : v < 128) (rest : List UInt8) :
    step (.ofNat v) rest = (some (Char.ofNat v), rest) := by
  have exact : (UInt8.ofNat v).toNat = v :=
    UInt8.toNat_ofNat_of_lt' (Nat.lt_trans small (by decide))
  have ascii : UInt8.ofNat v < 0x80 := by
    rw [UInt8.lt_iff_toNat_lt, exact]
    exact small
  simp [step, ascii, exact]

theorem step_two {v : Nat} (lower : 128 ≤ v) (upper : v ≤ 2047) (rest : List UInt8) :
    step (.ofNat (v / 64 % 32 + 192)) (.ofNat (v % 64 + 128) :: rest) =
      (some (Char.ofNat v), rest) := by
  have value : (v / 64 % 32 + 192 - 192) * 64 + v % 64 = v := by omega
  rw [step, if_neg (not_ascii _ (by omega) (by omega)), announced?_two (by omega) (by omega)]
  dsimp only
  rw [continuation_six 0 _ _ (by omega), value, continuation]

theorem step_three {v : Nat} (lower : 2048 ≤ v) (upper : v ≤ 65535)
    (valid : v < 0xD800 ∨ 0xDFFF < v) (rest : List UInt8) :
    step (.ofNat (v / 4096 % 16 + 224))
        (.ofNat (v / 64 % 64 + 128) :: .ofNat (v % 64 + 128) :: rest) =
      (some (Char.ofNat v), rest) := by
  have value :
      ((v / 4096 % 16 + 224 - 224) * 64 + (v / 64 % 64 + 128 - 128)) * 64 + v % 64 = v := by omega
  have low : (if v / 4096 % 16 + 224 = 224 then 0xA0 else 0x80 : UInt8).toNat ≤
      v / 64 % 64 + 128 := by
    split
    · show 160 ≤ _; omega
    · show 128 ≤ _; omega
  have high : v / 64 % 64 + 128 ≤
      (if v / 4096 % 16 + 224 = 237 then 0x9F else 0xBF : UInt8).toNat := by
    split
    · show _ ≤ 159; omega
    · show _ ≤ 191; omega
  rw [step, if_neg (not_ascii _ (by omega) (by omega)), announced?_three (by omega) (by omega)]
  dsimp only
  rw [continuation_cons 1 (by omega) low high, continuation_six 0 _ _ (by omega), value,
    continuation]

theorem step_four {v : Nat} (lower : 65536 ≤ v) (upper : v < 0x110000) (rest : List UInt8) :
    step (.ofNat (v / 262144 % 8 + 240)) (.ofNat (v / 4096 % 64 + 128) ::
        .ofNat (v / 64 % 64 + 128) :: .ofNat (v % 64 + 128) :: rest) =
      (some (Char.ofNat v), rest) := by
  have value : (((v / 262144 % 8 + 240 - 240) * 64 + (v / 4096 % 64 + 128 - 128)) * 64 +
      v / 64 % 64) * 64 + v % 64 = v := by omega
  have low : (if v / 262144 % 8 + 240 = 240 then 0x90 else 0x80 : UInt8).toNat ≤
      v / 4096 % 64 + 128 := by
    split
    · show 144 ≤ _; omega
    · show 128 ≤ _; omega
  have high : v / 4096 % 64 + 128 ≤
      (if v / 262144 % 8 + 240 = 244 then 0x8F else 0xBF : UInt8).toNat := by
    split
    · show _ ≤ 143; omega
    · show _ ≤ 191; omega
  rw [step, if_neg (not_ascii _ (by omega) (by omega)), announced?_four (by omega) (by omega)]
  dsimp only
  rw [continuation_cons 2 (by omega) low high, continuation_six 1 _ _ (by omega),
    continuation_six 0 _ _ (by omega), value, continuation]

/-- The bytes of a character are read as that character, whatever follows. -/
theorem read_encodeChar (c : Char) (rest : List UInt8) :
    read (String.utf8EncodeChar c ++ rest) = some c :: read rest := by
  have one {lead : UInt8} {more : List UInt8} (taken : step lead more = (some c, rest)) :
      read (lead :: more) = some c :: read rest := by
    rw [read, taken]
  have same : Char.ofNat c.val.toNat = c := Char.ofNat_toNat c
  have valid : c.val.toNat < 0xD800 ∨ 0xDFFF < c.val.toNat ∧ c.val.toNat < 0x110000 := c.valid
  unfold String.utf8EncodeChar
  generalize c.val.toNat = v at same valid
  dsimp only
  -- One to four bytes.
  split
  · exact one (by rw [List.append_eq, step_one (by omega), same, List.nil_append])
  · split
    · exact one (by
        rw [List.append_eq, List.singleton_append, step_two (by omega) (by omega), same])
    · split
      · exact one (by
          rw [List.append_eq, List.cons_append, List.singleton_append,
            step_three (by omega) (by omega) (by omega), same])
      · exact one (by
          rw [List.append_eq, List.cons_append, List.cons_append, List.singleton_append,
            step_four (by omega) (by omega), same])

/-- The bytes of a text have no faults. -/
theorem read_encode (text : List Char) : read (encode text) = text.map some := by
  induction text with
  | nil => simp [encode, read]
  | cons c rest ih =>
    unfold encode at ih ⊢
    rw [List.flatMap_cons, read_encodeChar, ih, List.map_cons]

/-- The bytes of a text are read as that text. -/
theorem decode?_encode (text : List Char) : decode? (encode text) = some text := by
  rw [decode?, read_encode, List.mapM_map]
  exact List.mapM_pure.trans (congrArg some (List.map_id text))

theorem decodeLossy_encode (text : List Char) : decodeLossy (encode text) = text := by
  rw [decodeLossy, read_encode, List.map_map]
  exact List.map_id text

/-! ### Sizes -/

theorem toNat_ofNat_le (v : Nat) : (Char.ofNat v).val.toNat ≤ v := by
  by_cases valid : v.isValidChar
  · have itself : Char.ofNat v = Char.ofNatAux v valid := dif_pos valid
    rw [itself]
    exact Nat.le_refl v
  · have zero : Char.ofNat v = ⟨0, .inl (by decide)⟩ := dif_neg valid
    rw [zero]
    exact Nat.zero_le v

/-- What comes out of a continuation: each byte that it takes in multiplies what a value can be by
64. -/
theorem continuation_eq_some {count : Nat} {low high : UInt8} {value : Nat}
    {bytes rest : List UInt8} {c : Char} (top : high.toNat ≤ 0xBF)
    (taken : continuation count low high value bytes = (some c, rest)) :
    bytes.length = rest.length + count ∧ c.val.toNat < (value + 1) * 64 ^ count := by
  induction count generalizing low high value bytes with
  | zero =>
    rw [continuation, Prod.mk.injEq, Option.some.injEq] at taken
    obtain ⟨rfl, rfl⟩ := taken
    have bound := toNat_ofNat_le value
    rw [pow_zero, Nat.mul_one]
    omega
  | succ count ih =>
    cases bytes with
    | nil => simp [continuation] at taken
    | cons byte bytes =>
      rw [continuation] at taken
      split at taken
      · next within =>
        rw [Bool.and_eq_true, decide_eq_true_eq, decide_eq_true_eq, UInt8.le_iff_toNat_le,
          UInt8.le_iff_toNat_le] at within
        obtain ⟨length, bound⟩ := ih (by decide) taken
        have part : value * 64 + (byte.toNat - 0x80) + 1 ≤ (value + 1) * 64 := by omega
        refine ⟨by rw [List.length_cons, length]; omega, ?_⟩
        calc c.val.toNat < (value * 64 + (byte.toNat - 0x80) + 1) * 64 ^ count := bound
          _ ≤ (value + 1) * 64 * 64 ^ count := Nat.mul_le_mul_right _ part
          _ = (value + 1) * 64 ^ (count + 1) := by rw [Nat.mul_assoc, pow_succ']
      · simp at taken

/-- How large a character can be that a first byte announces. -/
theorem announced?_eq_some {lead low high : UInt8} {count bits : Nat}
    (found : announced? lead = some (count, low, high, bits)) :
    high.toNat ≤ 0xBF ∧
      (count = 1 ∧ bits < 32 ∨ count = 2 ∧ bits < 16 ∨ count = 3 ∧ bits < 8) := by
  -- Every range of first bytes gives its bounds outright.
  simp only [announced?, Bool.and_eq_true, decide_eq_true_eq, UInt8.le_iff_toNat_le] at found
  repeat' split at found
  all_goals simp only [Option.some.injEq, Prod.mk.injEq, reduceCtorEq] at found
  all_goals obtain ⟨rfl, rfl, rfl, rfl⟩ := found
  all_goals simp_all
  all_goals omega

/-- How many bytes follow the first one of a character. -/
theorem length_encodeChar_le {c : Char} {count : Nat}
    (small : count = 0 ∧ c.val.toNat < 128 ∨ count = 1 ∧ c.val.toNat < 2048 ∨
      count = 2 ∧ c.val.toNat < 65536 ∨ count = 3) :
    (String.utf8EncodeChar c).length ≤ count + 1 := by
  unfold String.utf8EncodeChar
  generalize c.val.toNat = v at small
  dsimp only
  split_ifs
  all_goals
    simp only [List.length_cons, List.length_nil]
    omega

/-- A character takes no more bytes than it was read from. -/
theorem step_eq_some {lead : UInt8} {bytes rest : List UInt8} {c : Char}
    (taken : step lead bytes = (some c, rest)) :
    (String.utf8EncodeChar c).length + rest.length ≤ bytes.length + 1 := by
  unfold step at taken
  split at taken
  · next ascii =>
    rw [Prod.mk.injEq, Option.some.injEq] at taken
    obtain ⟨rfl, rfl⟩ := taken
    have bound : (Char.ofNat lead.toNat).val.toNat < 128 :=
      Nat.lt_of_le_of_lt (toNat_ofNat_le _) (UInt8.lt_iff_toNat_lt.mp ascii)
    have size := length_encodeChar_le (.inl ⟨rfl, bound⟩)
    omega
  · split at taken
    · simp at taken
    · next count low high bits found =>
      obtain ⟨top, sizes⟩ := announced?_eq_some found
      obtain ⟨length, bound⟩ := continuation_eq_some top taken
      have size : (String.utf8EncodeChar c).length ≤ count + 1 := by
        refine length_encodeChar_le (.inr ?_)
        rcases sizes with ⟨rfl, small⟩ | ⟨rfl, small⟩ | ⟨rfl, small⟩
        · exact .inl ⟨rfl, by omega⟩
        · exact .inr (.inl ⟨rfl, by omega⟩)
        · exact .inr (.inr rfl)
      omega

/-- A text takes no more bytes than it was read from. -/
theorem length_encode_le {bytes : List UInt8} {text : List Char}
    (decoded : decode? bytes = some text) : (encode text).length ≤ bytes.length := by
  unfold decode? at decoded
  fun_induction read bytes generalizing text with
  | case1 =>
    obtain rfl : [] = text := by simpa using decoded
    simp [encode]
  | case2 lead rest ih =>
    rw [List.mapM_cons] at decoded
    cases first : step lead rest with
    | mk found others =>
      rw [first] at decoded ih
      cases found with
      | none => simp at decoded
      | some c =>
        simp only [id, Option.pure_def, Option.bind_eq_bind, Option.bind_some,
          Option.bind_eq_some_iff, Option.some.injEq] at decoded
        obtain ⟨later, decodedLater, rfl⟩ := decoded
        have behind := ih decodedLater
        have here := step_eq_some first
        simp only [encode, List.flatMap_cons, List.length_append, List.length_cons] at behind ⊢
        omega

end Aggregation.Text.Utf8

namespace Aggregation.Bytes

/-- The bytes of a text have that text. -/
theorem text?_ofText (text : String) : (ofText text).text? = some text := by
  rw [text?, ofText, Text.Utf8.decode?_encode, Option.map_some, String.ofList_toList]

/-- Different texts have different bytes. -/
@[simp]
theorem ofText_inj {first second : String} : ofText first = ofText second ↔ first = second := by
  refine ⟨fun same => ?_, congrArg ofText⟩
  have read := text?_ofText first
  rw [same, text?_ofText] at read
  exact (Option.some.inj read).symm

end Aggregation.Bytes
