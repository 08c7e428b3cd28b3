-- SUMMARY: Octets cut short or prolonged hold the same offer, or they are malformed.
import RtpBridge.Proofs.Offer.Frame

/-!
# Truncation

A host may pass on an offer that lost its end or gained one. What is read then is the
offer itself or a malformed description: never another offer, and never a description
that can be read and not be used (`Offer.read_of_isPrefix`).
-/

namespace RtpBridge.Offer

/-- Octets whose records agree, if there are records, hold the same offer. -/
theorem read_eq_or_malformed {p r : List UInt8} {offer : Offer}
    (hagree : ∀ a b, readRecord p = .ok a → readRecord r = .ok b → a = b)
    (h : read p = .ok offer) :
    read r = .ok offer ∨ ∃ cause, read r = .error (.malformed cause) := by
  obtain ⟨a, ha, ho⟩ := read_eq_ok.1 h
  cases hb : readRecord r with
  | error cause =>
    refine .inr ⟨cause, ?_⟩
    simp only [read, hb]
  | ok b =>
    obtain rfl := hagree a b ha hb
    exact .inl (read_eq_ok.2 ⟨a, hb, ho⟩)

/-- Cutting octets short or prolonging them never changes the offer in them. -/
theorem read_of_isPrefix {p r : List UInt8} (h : p <+: r) :
    (∀ offer, read r = .ok offer →
      read p = .ok offer ∨ ∃ cause, read p = .error (.malformed cause)) ∧
    (∀ offer, read p = .ok offer →
      read r = .ok offer ∨ ∃ cause, read r = .error (.malformed cause)) := by
  constructor
  · intro offer hr
    refine read_eq_or_malformed (fun b a hb ha => ?_) hr
    exact (readRecord_eq_of_isPrefix h ha hb).symm
  · intro offer hp
    exact read_eq_or_malformed (fun a b ha hb => readRecord_eq_of_isPrefix h ha hb) hp

/-- An offer in base64, with blanks behind its record. -/
def blankEnded : List UInt8 :=
  Base64.encode (Utf8.encode
    "\x7b\"sdp\":\"v=0\\no=- 1 1 IN IP4 0\\ns=-\\nt=0 0\\n\",\"type\":\"offer\"\x7d  ".toList)

def blankEndedOffer : Offer := ⟨"v=0\no=- 1 1 IN IP4 0\ns=-\nt=0 0\n"⟩

/-- Cuts that take whole groups off the base64: first blanks only, then the end of the record. -/
theorem read_of_isPrefix_blankEnded :
    blankEnded.take 80 <+: blankEnded ∧ read blankEnded = .ok blankEndedOffer ∧
      (read (blankEnded.take 80) = .ok blankEndedOffer ∨
        ∃ cause, read (blankEnded.take 80) = .error (.malformed cause)) ∧
      blankEnded.take 76 <+: blankEnded.take 80 ∧
      read (blankEnded.take 80) = .ok blankEndedOffer ∧
      (read (blankEnded.take 76) = .ok blankEndedOffer ∨
        ∃ cause, read (blankEnded.take 76) = .error (.malformed cause)) := by
  have hcut : blankEnded.take 80 <+: blankEnded := by decide +kernel
  have hend : blankEnded.take 76 <+: blankEnded.take 80 := by decide +kernel
  have hwhole : read blankEnded = .ok blankEndedOffer := by decide +kernel
  have hblanks : read (blankEnded.take 80) = .ok blankEndedOffer := by decide +kernel
  exact ⟨hcut, hwhole, (read_of_isPrefix hcut).1 _ hwhole, hend, hblanks,
    (read_of_isPrefix hend).1 _ hblanks⟩

end RtpBridge.Offer
