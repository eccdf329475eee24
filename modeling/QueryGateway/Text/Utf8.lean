/-! # Bytes of a text -/

namespace QueryGateway

/-- Bytes as they travel: on a wire, in a file, in a message body. -/
abbrev Bytes := List UInt8

/-- The UTF-8 bytes of a text. -/
def Bytes.ofText (s : String) : Bytes :=
  s.toByteArray.data.toList

/-- The text that these bytes are the UTF-8 form of. -/
def Bytes.text? (bytes : Bytes) : Option String :=
  String.fromUTF8? ⟨bytes.toArray⟩

@[simp] theorem Bytes.length_ofText (s : String) : (Bytes.ofText s).length = s.utf8ByteSize := by
  rw [Bytes.ofText, Array.length_toList, ← String.size_toByteArray]
  rfl

/-- A text is read back from its bytes. -/
@[simp] theorem Bytes.text?_ofText (s : String) : (Bytes.ofText s).text? = some s := by
  have hbytes : (⟨(Bytes.ofText s).toArray⟩ : ByteArray) = s.toByteArray := by
    simp [Bytes.ofText]
  rw [Bytes.text?, hbytes, String.fromUTF8?, dif_pos s.isValidUTF8]
  exact congrArg some (String.toByteArray_inj.mp rfl)

/-- Bytes that form a text are that text's bytes. -/
theorem Bytes.eq_ofText_of_text? {bytes : Bytes} {s : String} (h : bytes.text? = some s) :
    bytes = Bytes.ofText s := by
  rw [Bytes.text?, String.fromUTF8?] at h
  split at h
  · injection h with h
    subst h
    simp [Bytes.ofText, String.fromUTF8]
  · cases h

@[simp] theorem Bytes.ofText_append (s t : String) :
    Bytes.ofText (s ++ t) = Bytes.ofText s ++ Bytes.ofText t := by
  simp [Bytes.ofText, String.toByteArray_append]

end QueryGateway
