import TypedFilters.Proofs.Text.Octets
import TypedFilters.Transport

/-!
# Decoded octets as texts

What a transport encoding leaves are octets, which are taken as the one text that has them
(`utf8_eq_ok_iff`) and are refused if no text has them (`utf8_eq_error_iff`).
-/

namespace TypedFilters.Encoding

open Text

variable {bs : List UInt8}

theorem utf8_eq_ok_iff {s : String} : utf8 bs = .ok s ↔ octets s = bs := by
  rw [← ofOctets?_eq_some_iff, utf8]
  cases ofOctets? bs <;> simp

theorem utf8_eq_error_iff : utf8 bs = .error .notUtf8 ↔ ∀ s, octets s ≠ bs := by
  simp only [ne_eq, ← ofOctets?_eq_some_iff, utf8]
  cases ofOctets? bs <;> simp

/-- Octets are refused for no other reason. -/
theorem eq_notUtf8_of_utf8 {fault : DecodeFault} (refused : utf8 bs = .error fault) :
    fault = .notUtf8 := by
  unfold utf8 at refused
  split at refused <;> cases refused
  rfl

end TypedFilters.Encoding
