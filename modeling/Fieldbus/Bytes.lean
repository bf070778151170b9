/-!
# Byte strings

Payloads, topics and device contents are finite lists of bytes.

* `Bytes`: the type.
* `utf8`: the bytes of a text.
-/

namespace Fieldbus

/-- A byte string. -/
abbrev Bytes := List UInt8

/-- The UTF-8 encoding of a text. -/
def utf8 (s : String) : Bytes :=
  s.toByteArray.data.toList

theorem utf8_inj {s t : String} : utf8 s = utf8 t ↔ s = t := by
  refine ⟨fun h => ?_, fun h => h ▸ rfl⟩
  have : s.toByteArray = t.toByteArray := ByteArray.ext (Array.ext' h)
  exact String.toByteArray_inj.mp this

@[simp] theorem utf8_append (s t : String) : utf8 (s ++ t) = utf8 s ++ utf8 t := by
  simp [utf8]

end Fieldbus
