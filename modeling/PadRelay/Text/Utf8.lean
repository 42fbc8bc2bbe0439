/-!
# PadRelay.Text.Utf8

Text as bytes on the wire.

* `utf8`, `ofUtf8?`: a text's UTF-8 bytes, and the text that bytes are valid UTF-8 of.
* `ofUtf8?_utf8`: reading gives back what was written.
-/

namespace PadRelay

/-- Bytes as they come from a stream or a file. -/
abbrev Bytes := List UInt8

namespace Text

def utf8 (s : String) : Bytes := s.toUTF8.data.toList

/-- The text whose UTF-8 bytes these are. -/
def ofUtf8? (bytes : Bytes) : Option String := String.fromUTF8? ⟨bytes.toArray⟩

theorem ofUtf8?_utf8 (s : String) : ofUtf8? (utf8 s) = some s := by
  have h : (⟨(utf8 s).toArray⟩ : ByteArray) = s.toUTF8 := by simp [utf8]
  unfold ofUtf8?
  rw [h]
  unfold String.fromUTF8?
  rw [String.toUTF8_eq_toByteArray, dif_pos s.isValidUTF8]
  rfl

end Text
end PadRelay
