-- SUMMARY: An offer in the open and the same offer in base64 are read alike.
import RtpBridge.Proofs.Offer.Frame

/-!
# The two encodings of an offer

An offer is handed over as JSON text or as the base64 of that text. Which of them it is
shows at the first character, and from there on both come to the same document
(`Offer.read_encodings_agree`), be it well-formed or not.
-/

namespace RtpBridge.Offer

/-- A text that begins an object and ends with neither white space nor a NUL is read as its
base64 is: the same offer, or the same fault. -/
theorem read_encodings_agree {t : List Char} (hhead : t.head? = some '\x7b')
    (hlast : ∀ c ∈ t.getLast?, ¬Text.isBlank c ∧ c ≠ '\x00') :
    read (Base64.encode (Utf8.encode t)) = read (Utf8.encode t) := by
  have hne : Utf8.encode t ≠ [] := by
    cases t with
    | nil => cases hhead
    | cons c t =>
      rw [Utf8.encode_cons]
      exact List.append_ne_nil_of_left_ne_nil String.utf8EncodeChar_ne_nil _
  have hopen : read (Utf8.encode ([] ++ (t ++ []))) = ofDocument (Utf8.encode t) :=
    read_encode (fun _ hc => nomatch hc) (fun _ hc => nomatch hc) hhead hlast
  rw [List.nil_append, List.append_nil] at hopen
  rw [read_base64 hne, hopen]

/-- A text that breaks off inside its description, behind a character of two octets. -/
def brokenOff : List Char := "\x7b\"type\":\"offer\",\"sdp\":\"v=0\\r\\ns=\u00e9".toList

theorem read_encodings_agree_brokenOff :
    brokenOff.head? = some '\x7b' ∧
      (∀ c ∈ brokenOff.getLast?, ¬Text.isBlank c ∧ c ≠ '\x00') ∧
      read (Utf8.encode brokenOff) = .error (.malformed (.json .endInString)) ∧
      read (Base64.encode (Utf8.encode brokenOff)) = read (Utf8.encode brokenOff) := by
  have hhead : brokenOff.head? = some '\x7b' := by decide +kernel
  have hend : brokenOff.getLast? = some 'é' := by decide +kernel
  have hlast : ∀ c ∈ brokenOff.getLast?, ¬Text.isBlank c ∧ c ≠ '\x00' := by
    intro c hc
    cases hend.symm.trans hc
    decide
  have hread : read (Utf8.encode brokenOff) = .error (.malformed (.json .endInString)) := by
    decide +kernel
  exact ⟨hhead, hlast, hread, read_encodings_agree hhead hlast⟩

end RtpBridge.Offer
