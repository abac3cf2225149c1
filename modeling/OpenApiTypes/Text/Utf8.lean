/-
The encoding of texts in UTF-8. Every text has one encoding, from which it is
read again; sequences of bytes that encode no text are read as none.
-/

namespace OpenApiTypes.Text

/-- The UTF-8 encoding of a text. -/
def utf8 (s : String) : List UInt8 := s.toUTF8.data.toList

/-- The text that some bytes encode, if there is one. -/
def ofUtf8? (bytes : List UInt8) : Option String := String.fromUTF8? ⟨bytes.toArray⟩

/-- Texts with the same bytes are the same text. -/
theorem utf8_injective {a b : String} (same : utf8 a = utf8 b) : a = b :=
  String.toByteArray_inj.1 (ByteArray.ext (Array.toList_inj.1 same))

@[simp] theorem utf8_append (a b : String) : utf8 (a ++ b) = utf8 a ++ utf8 b := by
  simp only [utf8, String.toUTF8_eq_toByteArray, String.toByteArray_append,
    ByteArray.toList_data_append]

/-- A text is read from its own encoding only. -/
theorem fromUTF8?_eq_some {bytes : ByteArray} {text : String} :
    String.fromUTF8? bytes = some text ↔ bytes = text.toUTF8 := by
  unfold String.fromUTF8?
  constructor
  · intro decoded
    split at decoded
    · rw [← Option.some.inj decoded]
      rfl
    · cases decoded
  · rintro rfl
    exact dif_pos text.isValidUTF8

theorem ofUtf8?_eq_some {bytes : List UInt8} {text : String} :
    ofUtf8? bytes = some text ↔ bytes = utf8 text := by
  rw [ofUtf8?, fromUTF8?_eq_some]
  constructor
  · intro same
    rw [utf8, ← same]
  · rintro rfl
    rfl

@[simp] theorem ofUtf8?_utf8 (text : String) : ofUtf8? (utf8 text) = some text :=
  ofUtf8?_eq_some.2 rfl

end OpenApiTypes.Text
