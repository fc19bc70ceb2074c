import Mathlib.Tactic
import SheetAudit.Text.Utf8

/-!
# Texts read back from their bytes

In UTF-8 the bytes of a character are a lead byte and the bytes that it asks for, no more and no
fewer, so they are read as that character whatever comes after them.  Hence a text is read back from
its bytes.
-/

namespace SheetAudit.Text

variable {code seen position n m k l : Nat} {read : List Char} {bytes rest : List UInt8}

/-! ## Sequences of bytes -/

/-- Bytes that are read as one character: a lead byte and the bytes that it asks for. -/
def IsSequence (code : Nat) (bytes : List UInt8) : Prop :=
  ∃ lead tail bits follow, bytes = lead :: tail ∧ sequenceAfter lead = some (bits, follow) ∧
    follow.length = tail.length ∧
    ∀ rest, continueSequence bits 1 follow (tail ++ rest) = .complete code

theorem sequenceAfter_single : ∀ n < 128, sequenceAfter (UInt8.ofNat n) = some (n, []) := by
  decide

theorem sequenceAfter_double : ∀ n, 2 ≤ n → n < 32 →
    sequenceAfter (UInt8.ofNat (n + 0xc0)) = some (n, [(0x80, 0xbf)]) := by
  decide

theorem sequenceAfter_triple : ∀ n < 16, sequenceAfter (UInt8.ofNat (n + 0xe0)) =
    some (n, [(if n = 0 then 0xa0 else 0x80, if n = 0xd then 0x9f else 0xbf), (0x80, 0xbf)]) := by
  decide

theorem sequenceAfter_quadruple : ∀ n < 5, sequenceAfter (UInt8.ofNat (n + 0xf0)) =
    some (n, [(if n = 0 then 0x90 else 0x80, if n = 4 then 0x8f else 0xbf), (0x80, 0xbf),
      (0x80, 0xbf)]) := by
  decide

/-- A byte within its limits adds six bits to a code. -/
theorem continueSequence_cons {low high : UInt8} (hlow : low.toNat ≤ n + 0x80)
    (hhigh : n + 0x80 ≤ high.toNat) (follow : List (UInt8 × UInt8)) :
    continueSequence code seen ((low, high) :: follow) (UInt8.ofNat (n + 0x80) :: rest) =
      continueSequence (code * 64 + n) (seen + 1) follow rest := by
  have hsize := high.toNat_lt
  have hbyte : (UInt8.ofNat (n + 0x80)).toNat = n + 0x80 := by
    rw [UInt8.toNat_ofNat', Nat.mod_eq_of_lt (by omega)]
  have hwithin : (decide (low ≤ UInt8.ofNat (n + 0x80)) &&
      decide (UInt8.ofNat (n + 0x80) ≤ high)) = true := by
    simp only [Bool.and_eq_true, decide_eq_true_iff, UInt8.le_iff_toNat_le, hbyte]
    exact ⟨hlow, hhigh⟩
  rw [continueSequence, if_pos hwithin, hbyte, Nat.add_sub_cancel]

theorem continueSequence_cons_tail (hn : n < 64) (follow : List (UInt8 × UInt8)) :
    continueSequence code seen ((0x80, 0xbf) :: follow) (UInt8.ofNat (n + 0x80) :: rest) =
      continueSequence (code * 64 + n) (seen + 1) follow rest :=
  continueSequence_cons (Nat.le_add_left _ _) (show n + 0x80 ≤ 0xbf by omega) follow

/-- The limits of the byte after the lead are narrower for the least lead and for one other. -/
theorem continueSequence_cons_second {low high : UInt8} {narrow : Nat} (hm : m < 64)
    (hlow : n = 0 → low.toNat ≤ m + 0x80) (hhigh : n = narrow → m + 0x80 ≤ high.toNat)
    (follow : List (UInt8 × UInt8)) :
    continueSequence code seen
        ((if n = 0 then low else 0x80, if n = narrow then high else 0xbf) :: follow)
        (UInt8.ofNat (m + 0x80) :: rest) =
      continueSequence (code * 64 + m) (seen + 1) follow rest := by
  apply continueSequence_cons
  · split
    · next hzero => exact hlow hzero
    · exact Nat.le_add_left _ _
  · split
    · next hnarrow => exact hhigh hnarrow
    · exact Nat.add_le_add_right (Nat.le_of_lt_succ hm) 0x80

theorem isSequence_single (hn : n < 128) : IsSequence n [UInt8.ofNat n] := by
  refine ⟨_, [], n, [], rfl, sequenceAfter_single n hn, rfl, ?_⟩
  intro rest
  rfl

theorem isSequence_double (hleast : 2 ≤ n) (hn : n < 32) (hm : m < 64) :
    IsSequence (n * 64 + m) [UInt8.ofNat (n + 0xc0), UInt8.ofNat (m + 0x80)] := by
  refine ⟨_, _, n, _, rfl, sequenceAfter_double n hleast hn, rfl, ?_⟩
  intro rest
  rw [List.cons_append, continueSequence_cons_tail hm]
  rfl

/-- Three bytes are a character unless two would have been enough or the code is a surrogate. -/
theorem isSequence_triple (hn : n < 16) (hm : m < 64) (hk : k < 64) (hleast : n = 0 → 32 ≤ m)
    (hsurrogate : n = 0xd → m < 32) :
    IsSequence ((n * 64 + m) * 64 + k)
      [UInt8.ofNat (n + 0xe0), UInt8.ofNat (m + 0x80), UInt8.ofNat (k + 0x80)] := by
  refine ⟨_, _, n, _, rfl, sequenceAfter_triple n hn, rfl, ?_⟩
  have hlow : n = 0 → 0xa0 ≤ m + 0x80 := by omega
  have hhigh : n = 0xd → m + 0x80 ≤ 0x9f := by omega
  intro rest
  rw [List.cons_append, continueSequence_cons_second hm hlow hhigh, List.cons_append,
    continueSequence_cons_tail hk]
  rfl

/-- Four bytes are a character unless three would have been enough or the code is too large. -/
theorem isSequence_quadruple (hn : n < 5) (hm : m < 64) (hk : k < 64) (hl : l < 64)
    (hleast : n = 0 → 16 ≤ m) (hgreatest : n = 4 → m < 16) :
    IsSequence (((n * 64 + m) * 64 + k) * 64 + l)
      [UInt8.ofNat (n + 0xf0), UInt8.ofNat (m + 0x80), UInt8.ofNat (k + 0x80),
        UInt8.ofNat (l + 0x80)] := by
  refine ⟨_, _, n, _, rfl, sequenceAfter_quadruple n hn, rfl, ?_⟩
  have hlow : n = 0 → 0x90 ≤ m + 0x80 := by omega
  have hhigh : n = 4 → m + 0x80 ≤ 0x8f := by omega
  intro rest
  rw [List.cons_append, continueSequence_cons_second hm hlow hhigh, List.cons_append,
    continueSequence_cons_tail hk, List.cons_append, continueSequence_cons_tail hl]
  rfl

/-- The bytes of every character are read as its code. -/
theorem isSequence_utf8EncodeChar (c : Char) : IsSequence c.toNat (String.utf8EncodeChar c) := by
  have hvalid : c.toNat < 0xd800 ∨ 0xdfff < c.toNat ∧ c.toNat < 0x110000 := c.valid
  have hcode : c.val.toNat = c.toNat := rfl
  simp only [String.utf8EncodeChar, hcode]
  generalize c.toNat = code at hvalid
  split
  · exact isSequence_single (by omega)
  · split
    · have hdigits : code = code / 64 % 32 * 64 + code % 64 := by omega
      nth_rewrite 1 [hdigits]
      exact isSequence_double (by omega) (by omega) (by omega)
    · split
      · have hdigits : code = (code / 4096 % 16 * 64 + code / 64 % 64) * 64 + code % 64 := by omega
        nth_rewrite 1 [hdigits]
        apply isSequence_triple <;> omega
      · have hdigits : code = ((code / 262144 % 8 * 64 + code / 4096 % 64) * 64 + code / 64 % 64) *
            64 + code % 64 := by omega
        nth_rewrite 1 [hdigits]
        apply isSequence_quadruple <;> omega

/-! ## Texts -/

theorem decodeFrom_skip (position : Nat) (read : List Char) (bytes rest : List UInt8) :
    decodeFrom position bytes.length read (bytes ++ rest) =
      decodeFrom (position + bytes.length) 0 read rest := by
  induction bytes generalizing position with
  | nil => rfl
  | cons byte bytes ih =>
      rw [List.cons_append, List.length_cons, decodeFrom, ih]
      congr 1
      omega

theorem decodeFrom_append (hbytes : IsSequence code bytes) :
    decodeFrom position 0 read (bytes ++ rest) =
      decodeFrom (position + bytes.length) 0 (Char.ofNat code :: read) rest := by
  obtain ⟨lead, tail, bits, follow, rfl, hlead, hlength, hcode⟩ := hbytes
  rw [List.cons_append, decodeFrom]
  simp only [hlead, hcode, hlength]
  rw [decodeFrom_skip, List.length_cons]
  congr 1
  omega

theorem decodeFrom_utf8EncodeChar (position : Nat) (read cs : List Char) :
    decodeFrom position 0 read (cs.flatMap String.utf8EncodeChar) =
      ⟨read.reverse ++ cs, [], none⟩ := by
  induction cs generalizing position read with
  | nil => simp [decodeFrom]
  | cons c cs ih =>
      rw [List.flatMap_cons, decodeFrom_append (isSequence_utf8EncodeChar c), ih, Char.ofNat_toNat]
      simp

/-- The bytes of a text in UTF-8. -/
def utf8Bytes (text : String) : List UInt8 := text.toUTF8.data.toList

theorem utf8Bytes_eq_flatMap (text : String) :
    utf8Bytes text = text.toList.flatMap String.utf8EncodeChar := by
  rw [utf8Bytes, String.toUTF8_eq_toByteArray, ← String.utf8Encode_toList]
  exact List.toList_data_toByteArray

theorem decode_utf8Bytes (text : String) : decode (utf8Bytes text) = .ok text.toList := by
  rw [utf8Bytes_eq_flatMap, decode, decodeFrom_utf8EncodeChar]
  rfl

end SheetAudit.Text
