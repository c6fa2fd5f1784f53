/-!
# Text as UTF-8 bytes

Addresses and URI references are recognised byte by byte. The byte form of a text is a list, so that
statements about prefixes and suffixes are statements about `++`, `take` and `drop`. `utf8` and
`ofUtf8?` undo each other (`ofUtf8?_utf8`, `utf8_of_ofUtf8?`).
-/

namespace AccessPoint.Text

/-- The UTF-8 bytes of a text. -/
def utf8 (s : String) : List UInt8 := s.toList.flatMap String.utf8EncodeChar

/-- The text that a list of bytes encodes, if it is UTF-8. -/
def ofUtf8? (bytes : List UInt8) : Option String :=
  String.fromUTF8? ⟨bytes.toArray⟩

theorem utf8_append (s t : String) : utf8 (s ++ t) = utf8 s ++ utf8 t := by
  rw [utf8, String.toList_append, List.flatMap_append]; rfl

/-- The bytes are those by which the text is stored. -/
theorem toByteArray_utf8 (s : String) : (⟨(utf8 s).toArray⟩ : ByteArray) = s.toByteArray := by
  conv => rhs; rw [← String.ofList_toList (s := s), String.toByteArray_ofList, List.utf8Encode]
  ext1
  simp [utf8]

/-- A text is read back from its bytes. -/
theorem ofUtf8?_utf8 (s : String) : ofUtf8? (utf8 s) = some s := by
  rw [ofUtf8?, toByteArray_utf8, String.fromUTF8?, dif_pos s.isValidUTF8]
  rfl

theorem utf8_injective {s t : String} (h : utf8 s = utf8 t) : s = t :=
  Option.some.inj (by rw [← ofUtf8?_utf8, h, ofUtf8?_utf8])

/-- Bytes that are read as a text are the bytes of that text. -/
theorem utf8_of_ofUtf8? {bytes : List UInt8} {s : String} (h : ofUtf8? bytes = some s) :
    utf8 s = bytes := by
  rw [ofUtf8?, String.fromUTF8?] at h
  split at h
  · next hv =>
    obtain rfl := Option.some.inj h
    have stored := toByteArray_utf8 (String.fromUTF8 ⟨bytes.toArray⟩ hv)
    rw [show (String.fromUTF8 ⟨bytes.toArray⟩ hv).toByteArray = ⟨bytes.toArray⟩ from rfl] at stored
    simpa using stored
  · simp at h

end AccessPoint.Text
