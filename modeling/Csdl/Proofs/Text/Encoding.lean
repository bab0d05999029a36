import Csdl.Text.Encoding
import Mathlib.Data.List.Flatten

/-! Decoding is the inverse of encoding. In each encoding the bytes of a text are read as that text,
and bytes that are no text's bytes are refused. Marks are told apart from each other, and of the
texts in UTF-8 only those that begin with the mark's own character look marked. -/
namespace Csdl.Text

namespace Utf16

theorem isHighSurrogate_iff {unit : Nat} :
    isHighSurrogate unit = true ↔ 0xD800 ≤ unit ∧ unit < 0xDC00 := by
  simp [isHighSurrogate]

theorem isLowSurrogate_iff {unit : Nat} :
    isLowSurrogate unit = true ↔ 0xDC00 ≤ unit ∧ unit < 0xE000 := by
  simp [isLowSurrogate]

theorem toNat_ofNat {code : Nat} (h : code.isValidChar) : (Char.ofNat code).toNat = code := by
  rw [Char.ofNat, dif_pos h]
  rfl

/-- A unit that is no surrogate is the only unit of its character. -/
theorem charUnits_ofNat {unit : Nat} (hUnit : unit < 0x10000)
    (hHigh : isHighSurrogate unit = false) (hLow : isLowSurrogate unit = false) :
    charUnits (Char.ofNat unit) = [unit] := by
  rw [← Bool.not_eq_true, isHighSurrogate_iff] at hHigh
  rw [← Bool.not_eq_true, isLowSurrogate_iff] at hLow
  have hValid : unit.isValidChar := by
    unfold Nat.isValidChar
    omega
  rw [charUnits, toNat_ofNat hValid, if_pos hUnit]

/-- Two surrogates in their order are the units of the character that they stand for. -/
theorem charUnits_pairChar {high low : Nat} (hHigh : isHighSurrogate high = true)
    (hLow : isLowSurrogate low = true) : charUnits (pairChar high low) = [high, low] := by
  rw [isHighSurrogate_iff] at hHigh
  rw [isLowSurrogate_iff] at hLow
  have hValid : (0x10000 + (high - 0xD800) * 0x400 + (low - 0xDC00)).isValidChar := by
    unfold Nat.isValidChar
    omega
  rw [charUnits, pairChar, toNat_ofNat hValid, if_neg (by omega)]
  simp only [List.cons.injEq, and_true]
  omega

/-- The units of a character are read as that character, whatever follows. -/
theorem decodeUnits_charUnits (done : List Char) (c : Char) (rest : List Nat) :
    decodeUnits done (charUnits c ++ rest) = decodeUnits (c :: done) rest := by
  have hValid : c.toNat < 0xD800 ∨ (0xDFFF < c.toNat ∧ c.toNat < 0x110000) := c.valid
  unfold charUnits
  split
  · next hShort =>
      have hHigh : isHighSurrogate c.toNat = false := by
        rw [← Bool.not_eq_true, isHighSurrogate_iff]
        omega
      have hLow : isLowSurrogate c.toNat = false := by
        rw [← Bool.not_eq_true, isLowSurrogate_iff]
        omega
      rw [List.singleton_append, decodeUnits.eq_def]
      simp [hHigh, hLow]
  · next hLong =>
      have hHigh : isHighSurrogate (0xD800 + (c.toNat - 0x10000) / 0x400) = true := by
        rw [isHighSurrogate_iff]
        omega
      have hLow : isLowSurrogate (0xDC00 + (c.toNat - 0x10000) % 0x400) = true := by
        rw [isLowSurrogate_iff]
        omega
      have hPair : pairChar (0xD800 + (c.toNat - 0x10000) / 0x400)
          (0xDC00 + (c.toNat - 0x10000) % 0x400) = c := by
        have hCode : 0x10000 + (0xD800 + (c.toNat - 0x10000) / 0x400 - 0xD800) * 0x400 +
            (0xDC00 + (c.toNat - 0x10000) % 0x400 - 0xDC00) = c.toNat := by
          omega
        rw [pairChar, hCode, Char.ofNat_toNat]
      dsimp only
      rw [List.cons_append, List.singleton_append, decodeUnits.eq_def]
      simp [hHigh, hLow, hPair]

theorem decodeUnits_flatMap (done cs : List Char) :
    decodeUnits done (cs.flatMap charUnits) = some (done.reverse ++ cs) := by
  induction cs generalizing done with
  | nil => simp [decodeUnits]
  | cons c cs ih => simp [List.flatMap_cons, decodeUnits_charUnits, ih]

/-- Units that are read are those of the characters read. -/
theorem eq_flatMap_of_decodeUnits {done all : List Char} {units : List Nat}
    (hUnits : ∀ unit ∈ units, unit < 0x10000) (h : decodeUnits done units = some all) :
    ∃ cs, all = done.reverse ++ cs ∧ units = cs.flatMap charUnits := by
  fun_induction decodeUnits done units with
  | case1 done => exact ⟨[], by simpa using h.symm, rfl⟩
  | case2 done unit hHigh low rest hLow ih =>
      obtain ⟨cs, hAll, hRest⟩ := ih (fun unit hMem => hUnits unit (by simp [hMem])) h
      exact ⟨pairChar unit low :: cs, by simp [hAll],
        by simp [List.flatMap_cons, charUnits_pairChar hHigh hLow, hRest]⟩
  | case3 => cases h
  | case4 => cases h
  | case5 => cases h
  | case6 done unit rest hHigh hLow ih =>
      obtain ⟨cs, hAll, hRest⟩ := ih (fun unit hMem => hUnits unit (by simp [hMem])) h
      have hUnit := charUnits_ofNat (hUnits unit (by simp)) (Bool.eq_false_iff.2 hHigh)
        (Bool.eq_false_iff.2 hLow)
      exact ⟨Char.ofNat unit :: cs, by simp [hAll], by simp [List.flatMap_cons, hUnit, hRest]⟩

theorem unit_lt (order : ByteOrder) (first second : UInt8) : order.unit first second < 0x10000 := by
  have hFirst := first.toNat_lt
  have hSecond := second.toNat_lt
  cases order <;> simp only [ByteOrder.unit] <;> omega

/-- Two bytes are put back in the order in which they were taken together. -/
theorem bytes_unit (order : ByteOrder) (first second : UInt8) :
    order.bytes (order.unit first second) = [first, second] := by
  have hFirst := first.toNat_lt
  have hSecond := second.toNat_lt
  have hParts : ∀ low high : UInt8, (high.toNat * 256 + low.toNat) % 256 = low.toNat ∧
      (high.toNat * 256 + low.toNat) / 256 = high.toNat := by
    intro low high
    have hLow := low.toNat_lt
    omega
  cases order <;> simp [ByteOrder.bytes, ByteOrder.unit, hParts]

/-- The two bytes of a code unit are read as that unit, whatever follows. -/
theorem unitsOfBytes_bytes (order : ByteOrder) (done : List Nat) {unit : Nat}
    (hUnit : unit < 0x10000) (rest : List UInt8) :
    unitsOfBytes order done (order.bytes unit ++ rest) = unitsOfBytes order (unit :: done) rest := by
  have hLow : (UInt8.ofNat (unit % 256)).toNat = unit % 256 := by
    rw [UInt8.toNat_ofNat']
    omega
  have hHigh : (UInt8.ofNat (unit / 256)).toNat = unit / 256 := by
    rw [UInt8.toNat_ofNat']
    omega
  have hParts : unit / 256 * 256 + unit % 256 = unit := by omega
  cases order <;> simp [unitsOfBytes, ByteOrder.bytes, ByteOrder.unit, hLow, hHigh, hParts]

/-- The units behind some bytes are those that the bytes were written from. -/
theorem unitsOfBytes_flatMap (order : ByteOrder) (done units : List Nat)
    (hUnits : ∀ unit ∈ units, unit < 0x10000) :
    unitsOfBytes order done (units.flatMap order.bytes) = some (done.reverse ++ units) := by
  induction units generalizing done with
  | nil => simp [unitsOfBytes]
  | cons unit units ih =>
      rw [List.forall_mem_cons] at hUnits
      simp [List.flatMap_cons, unitsOfBytes_bytes order done hUnits.1, ih _ hUnits.2]

/-- Bytes that are read are those of the units read. -/
theorem eq_flatMap_of_unitsOfBytes {order : ByteOrder} {done all : List Nat} {bytes : List UInt8}
    (h : unitsOfBytes order done bytes = some all) :
    ∃ units, all = done.reverse ++ units ∧ bytes = units.flatMap order.bytes ∧
      ∀ unit ∈ units, unit < 0x10000 := by
  fun_induction unitsOfBytes order done bytes with
  | case1 done => exact ⟨[], by simpa using h.symm, rfl, by simp⟩
  | case2 => cases h
  | case3 done first second rest ih =>
      obtain ⟨units, hAll, hRest, hUnits⟩ := ih h
      refine ⟨order.unit first second :: units, by simp [hAll], ?_, ?_⟩
      · simp [List.flatMap_cons, bytes_unit, hRest]
      · exact List.forall_mem_cons.2 ⟨unit_lt order first second, hUnits⟩

/-- A character has units of sixteen bits. -/
theorem lt_of_mem_charUnits {c : Char} {unit : Nat} (h : unit ∈ charUnits c) : unit < 0x10000 := by
  have hValid : c.toNat < 0xD800 ∨ (0xDFFF < c.toNat ∧ c.toNat < 0x110000) := c.valid
  unfold charUnits at h
  split at h
  · rw [List.mem_singleton] at h
    omega
  · simp only [List.mem_cons, List.not_mem_nil, or_false] at h
    omega

/-- Bytes are read as a text exactly if they are the bytes of it. -/
theorem decode?_eq_some_iff {order : ByteOrder} {bytes : List UInt8} {text : String} :
    decode? order bytes = some text ↔ bytes = encode order text := by
  unfold decode? encode
  simp only [Option.bind_eq_bind, Option.bind_eq_some_iff, Option.pure_def, Option.some.injEq]
  constructor
  · rintro ⟨units, hUnits, chars, hChars, rfl⟩
    obtain ⟨_, rfl, rfl, hSmall⟩ := eq_flatMap_of_unitsOfBytes hUnits
    obtain ⟨_, rfl, hEq⟩ := eq_flatMap_of_decodeUnits hSmall hChars
    simpa using congrArg (List.flatMap order.bytes) hEq
  · rintro rfl
    have hSmall : ∀ unit ∈ text.toList.flatMap charUnits, unit < 0x10000 := by
      intro unit hUnit
      obtain ⟨c, _, hMem⟩ := List.mem_flatMap.1 hUnit
      exact lt_of_mem_charUnits hMem
    refine ⟨_, unitsOfBytes_flatMap order [] _ hSmall, _, decodeUnits_flatMap [] _, ?_⟩
    simp

end Utf16

namespace Encoding

/-- The bytes of an array are listed in their order, though the list is built from the end. -/
theorem toList_eq (bytes : ByteArray) : bytes.toList = bytes.data.toList := by
  have hLoop : ∀ (i : Nat) (done : List UInt8),
      ByteArray.toList.loop bytes i done = done.reverse ++ bytes.data.toList.drop i := by
    intro i done
    fun_induction ByteArray.toList.loop bytes i done with
    | case1 i done hi ih =>
        have hLength : i < bytes.data.toList.length := by simpa using hi
        rw [ih, List.drop_eq_getElem_cons hLength]
        simp [ByteArray.get!, hi]
    | case2 i done hi =>
        rw [List.drop_eq_nil_of_le (by simpa using Nat.le_of_not_lt hi)]
        simp
  exact hLoop 0 []

theorem encode_utf8 (text : String) :
    utf8.encode text = text.toList.flatMap String.utf8EncodeChar := by
  rw [encode, toList_eq, String.toUTF8_eq_toByteArray, ← String.utf8Encode_toList, List.utf8Encode,
    List.toList_data_toByteArray]

/-- Bytes are read as a text exactly if they are the bytes of it. -/
theorem decode?_eq_some_iff {encoding : Encoding} {bytes : List UInt8} {text : String} :
    encoding.decode? bytes = some text ↔ bytes = encoding.encode text := by
  cases encoding with
  | utf16 order => exact Utf16.decode?_eq_some_iff
  | utf8 =>
      have hBytes : bytes = utf8.encode text ↔ text.toUTF8 = ByteArray.mk bytes.toArray := by
        rw [encode, toList_eq]
        constructor
        · rintro rfl
          rfl
        · intro h
          rw [h]
      rw [hBytes, decode?, String.fromUTF8?]
      constructor
      · intro h
        split at h
        · next hValid => exact Option.some.inj h ▸ rfl
        · cases h
      · intro h
        rw [← h, String.toUTF8_eq_toByteArray, dif_pos text.isValidUTF8]
        rfl

/-- Bytes are in the encoding whose mark they begin with, and in UTF-8 if they have no mark. -/
def Names (bytes : List UInt8) (encoding : Encoding) : Prop :=
  encoding.mark <+: bytes ∨ encoding = utf8 ∧ ∀ other : Encoding, ¬ other.mark <+: bytes

/-- Bytes that begin with no mark are taken for the plain encoding, all of them. -/
theorem split_of_unmarked {bytes : List UInt8}
    (h : ∀ encoding : Encoding, ¬ encoding.mark <+: bytes) :
    split bytes = (utf8, bytes) := by
  unfold split
  split
  · exact absurd ⟨_, rfl⟩ (h utf8)
  · exact absurd ⟨_, rfl⟩ (h (utf16 .little))
  · exact absurd ⟨_, rfl⟩ (h (utf16 .big))
  · rfl

/-- Bytes are cut behind their mark. -/
theorem names_split (bytes : List UInt8) : Names bytes (split bytes).1 := by
  by_cases hMarked : ∃ encoding : Encoding, encoding.mark <+: bytes
  · obtain ⟨encoding, rest, rfl⟩ := hMarked
    rw [split_mark_append]
    exact .inl (List.prefix_append _ _)
  · rw [not_exists] at hMarked
    rw [split_of_unmarked hMarked]
    exact .inr ⟨rfl, hMarked⟩

/-- Bytes are in one encoding only. -/
theorem Names.eq_split {bytes : List UInt8} {encoding : Encoding} (h : Names bytes encoding) :
    encoding = (split bytes).1 := by
  rcases h with ⟨rest, rfl⟩ | ⟨rfl, hUnmarked⟩
  · rw [split_mark_append]
  · rw [split_of_unmarked hUnmarked]

/-- No character's bytes in UTF-8 begin like a mark of UTF-16. -/
theorem not_mark_isPrefix_encode_utf8 (order : Utf16.ByteOrder) (text : String) :
    ¬ (utf16 order).mark <+: utf8.encode text := by
  rw [encode_utf8]
  cases hText : text.toList with
  | nil => cases order <;> simp [mark]
  | cons c cs =>
      have hFirst := UInt8.isUTF8FirstByte_getElem_zero_utf8EncodeChar (c := c)
      cases hBytes : String.utf8EncodeChar c with
      | nil => exact absurd hBytes String.utf8EncodeChar_ne_nil
      | cons first bytes =>
          simp only [hBytes, List.getElem_cons_zero] at hFirst
          rw [List.flatMap_cons, hBytes]
          intro hMark
          cases order
          · rw [mark, List.cons_append, List.cons_prefix_cons] at hMark
            exact absurd (hMark.1 ▸ hFirst) (by decide)
          · rw [mark, List.cons_append, List.cons_prefix_cons] at hMark
            exact absurd (hMark.1 ▸ hFirst) (by decide)

/-- The mark of UTF-8 is what a text begins with whose first character is the one of the marks. -/
theorem mark_isPrefix_encode_utf8 {text : String} :
    utf8.mark <+: utf8.encode text ↔ text.toList.head? = some '\uFEFF' := by
  have hMark : utf8.mark = ['\uFEFF'].flatMap String.utf8EncodeChar := by decide
  rw [encode_utf8, hMark]
  constructor
  · rintro ⟨rest, hEq⟩
    have hBytes : ['\uFEFF'].utf8Encode ++ rest.toByteArray = text.toList.utf8Encode := by
      rw [List.utf8Encode, List.utf8Encode, ← hEq, List.toByteArray_append]
    obtain ⟨cs, hText⟩ := List.isPrefix_of_utf8Encode_append_eq_utf8Encode _ hBytes
    rw [← hText]
    rfl
  · intro hHead
    obtain ⟨cs, hText⟩ := List.head?_eq_some_iff.1 hHead
    rw [hText, List.flatMap_cons]
    exact ⟨cs.flatMap String.utf8EncodeChar, by simp⟩

/-- A text in UTF-8 has no mark exactly if it does not begin with the character of the marks. -/
theorem unmarked_encode_utf8 {text : String} :
    (∀ encoding : Encoding, ¬ encoding.mark <+: utf8.encode text) ↔
      text.toList.head? ≠ some '\uFEFF' := by
  constructor
  · exact fun h hHead => h utf8 (mark_isPrefix_encode_utf8.2 hHead)
  · intro hHead encoding
    cases encoding with
    | utf8 => exact fun hMark => hHead (mark_isPrefix_encode_utf8.1 hMark)
    | utf16 order => exact not_mark_isPrefix_encode_utf8 order text

end Encoding

end Csdl.Text
