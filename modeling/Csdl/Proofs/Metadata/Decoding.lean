import Csdl.Metadata.Document
import Csdl.Proofs.Text.Encoding

/-! The bytes of documents. A text has up to four forms: with a mark in each of the three encodings,
and in UTF-8 without one. These forms are read as the text, all other bytes are refused, and what is
defined depends on the text alone. -/
namespace Csdl

/-- Bytes that are a form of a text: a mark and the text in the encoding of the mark, or the text in
UTF-8 alone, unless it begins with the character that would be taken for the mark. -/
def Text.Presents (bytes : List UInt8) (text : String) : Prop :=
  (∃ encoding : Text.Encoding, bytes = encoding.mark ++ encoding.encode text) ∨
    bytes = Text.Encoding.utf8.encode text ∧ text.toList.head? ≠ some '\uFEFF'

namespace Metadata

open Text (Presents)

/-- What is behind the mark is decoded, and the only error names the encoding. -/
theorem decode_cases (bytes : List UInt8) :
    (∃ text, decode bytes = .ok text ∧
      (Text.Encoding.split bytes).2 = (Text.Encoding.split bytes).1.encode text) ∨
    ((∀ text, (Text.Encoding.split bytes).2 ≠ (Text.Encoding.split bytes).1.encode text) ∧
      decode bytes = .error (.undecodable (Text.Encoding.split bytes).1)) := by
  unfold decode
  generalize Text.Encoding.split bytes = parts
  obtain ⟨encoding, content⟩ := parts
  cases hText : encoding.decode? content with
  | some text => exact .inl ⟨text, by simp [hText], Text.Encoding.decode?_eq_some_iff.1 hText⟩
  | none =>
      refine .inr ⟨fun text hEq => ?_, by simp [hText]⟩
      rw [Text.Encoding.decode?_eq_some_iff.2 hEq] at hText
      cases hText

/-- Bytes are a form of the text that stands behind their mark, in the encoding of the mark. -/
theorem presents_iff {bytes : List UInt8} {text : String} :
    Presents bytes text ↔
      (Text.Encoding.split bytes).2 = (Text.Encoding.split bytes).1.encode text := by
  by_cases hMarked : ∃ encoding : Text.Encoding, encoding.mark <+: bytes
  · obtain ⟨encoding, content, rfl⟩ := hMarked
    rw [Text.Encoding.split_mark_append]
    dsimp only
    constructor
    · rintro (⟨other, hEq⟩ | ⟨hEq, hHead⟩)
      · have hSplit := congrArg Text.Encoding.split hEq
        rw [Text.Encoding.split_mark_append, Text.Encoding.split_mark_append] at hSplit
        cases hSplit
        rfl
      · exact absurd (hEq ▸ List.prefix_append _ _)
          (Text.Encoding.unmarked_encode_utf8.2 hHead encoding)
    · rintro rfl
      exact .inl ⟨encoding, rfl⟩
  · rw [not_exists] at hMarked
    rw [Text.Encoding.split_of_unmarked hMarked]
    dsimp only
    constructor
    · rintro (⟨encoding, rfl⟩ | ⟨hEq, _⟩)
      · exact absurd (List.prefix_append _ _) (hMarked encoding)
      · exact hEq
    · intro hEq
      exact .inr ⟨hEq, Text.Encoding.unmarked_encode_utf8.1 (hEq ▸ hMarked)⟩

/-- Bytes are read as the text whose form they are. -/
theorem decode_eq_ok_iff {bytes : List UInt8} {text : String} :
    decode bytes = .ok text ↔ Presents bytes text := by
  rw [presents_iff]
  rcases decode_cases bytes with ⟨found, hFound, hEq⟩ | ⟨hNone, hError⟩
  · rw [hFound, Except.ok.injEq]
    constructor
    · rintro rfl
      exact hEq
    · intro hText
      rw [← Text.Encoding.decode?_eq_some_iff] at hEq hText
      exact Option.some.inj (hEq.symm.trans hText)
  · simp [hError, hNone]

/-- Bytes that are a form of no text are refused with the name of their encoding. -/
theorem decode_eq_error_iff {bytes : List UInt8} {error : Error} :
    decode bytes = .error error ↔ (∀ text, ¬ Presents bytes text) ∧
      ∃ encoding, Text.Encoding.Names bytes encoding ∧ error = .undecodable encoding := by
  simp only [presents_iff]
  rcases decode_cases bytes with ⟨text, hText, hEq⟩ | ⟨hNone, hError⟩
  · rw [hText]
    constructor
    · intro h
      cases h
    · exact fun h => absurd hEq (h.1 text)
  · rw [hError, Except.error.injEq]
    constructor
    · rintro rfl
      exact ⟨hNone, _, Text.Encoding.names_split bytes, rfl⟩
    · rintro ⟨_, encoding, hNames, rfl⟩
      rw [hNames.eq_split]

/-- Bytes are read as a text exactly if they are a form of it. Bytes that are a form of no text are
refused with the name of the encoding that their mark selects. Reading a form of a text is reading
the text, with the same events and the same result. -/
theorem decoding_exact (bytes : List UInt8) :
    (∀ text, decode bytes = .ok text ↔ Presents bytes text) ∧
    (∀ error, decode bytes = .error error ↔ (∀ text, ¬ Presents bytes text) ∧
      ∃ encoding, Text.Encoding.Names bytes encoding ∧ error = .undecodable encoding) ∧
    ∀ text, Presents bytes text → ∀ settings url,
      readBytes settings url bytes = read settings url text ∧
        parseBytes settings url bytes = parse settings url text := by
  refine ⟨fun text => decode_eq_ok_iff, fun error => decode_eq_error_iff, ?_⟩
  intro text hText settings url
  have hRead : readBytes settings url bytes = read settings url text := by
    rw [readBytes, decode_eq_ok_iff.2 hText]
    rfl
  exact ⟨hRead, congrArg Logged.result hRead⟩

end Metadata

end Csdl
