/-!
# Texts as octets

A text is carried as the octets of its UTF-8 form. `Text.octets` writes them and
`Text.ofOctets?` reads them back, refusing octets that are the UTF-8 form of no text.
-/

namespace TypedFilters.Text

/-- The UTF-8 form of a text. -/
def octets (s : String) : List UInt8 :=
  s.toUTF8.data.toList

/-- The text of which the octets are the UTF-8 form. -/
def ofOctets? (bs : List UInt8) : Option String :=
  String.fromUTF8? ⟨bs.toArray⟩

/-- The octet of an ASCII character. -/
def octet (c : Char) : UInt8 :=
  UInt8.ofNat c.toNat

/-- Reading undoes writing. -/
theorem ofOctets?_octets (s : String) : ofOctets? (octets s) = some s := by
  have h : (⟨(octets s).toArray⟩ : ByteArray) = s.toByteArray := by simp [octets, String.toUTF8]
  simp only [ofOctets?, h, String.fromUTF8?, s.isValidUTF8, dite_true]
  rfl

end TypedFilters.Text
