-- SUMMARY: NULs behind an offer and white space around it change neither what is read nor what is wrong.
import RtpBridge.Proofs.Offer.Frame

/-!
# Padding

Octets may come with the NULs that end a text in memory, and a text with blanks at both ends.
Neither is seen by what comes after the frame is taken off (`Offer.read_padded`): an offer is
the same offer, and a fault the same fault at the same place.
-/

namespace RtpBridge.Offer

/-! ## NULs -/

theorem dropNuls_append_replicate (octets : List UInt8) (n : Nat) :
    dropNuls (octets ++ List.replicate n 0) = dropNuls octets := by
  have hzero : ∀ b ∈ List.replicate n (0 : UInt8), b == 0 := by
    intro b hb
    rw [List.eq_of_mem_replicate hb, beq_self_eq_true]
  exact Text.rdropWhile_append_of_pos hzero

theorem unframe_append_replicate (octets : List UInt8) (n : Nat) :
    unframe (octets ++ List.replicate n 0) = unframe octets := by
  simp only [unframe, dropNuls_append_replicate]

/-! ## Blanks -/

theorem unframe_encode {t : List Char} (h : ∀ c ∈ t.getLast?, c ≠ '\x00') :
    unframe (Utf8.encode t) =
      if (Text.trim t).isEmpty then .error .empty else .ok (Text.trim t) := by
  simp only [unframe, dropNuls_encode h, Utf8.decode_encode]

/-- Blanks around a text are trimmed, and where they hide its end, that end was no NUL. -/
theorem unframe_padded {w t w' : List Char} (hw : ∀ c ∈ w, Text.isBlank c)
    (hw' : ∀ c ∈ w', Text.isBlank c) (ht : ∀ c ∈ t.getLast?, c ≠ '\x00') (n : Nat) :
    unframe (Utf8.encode (w ++ (t ++ w')) ++ List.replicate n 0) = unframe (Utf8.encode t) := by
  have htrim : Text.trim (w ++ (t ++ w')) = Text.trim t := by
    rw [Text.trim_append_left hw, Text.trim_append_right hw']
  have hlast := getLast?_ne_nul hw hw' ht
  rw [unframe_append_replicate, unframe_encode hlast, unframe_encode ht, htrim]

/-! ## Reading -/

/-- Only what is in the frame is read. -/
theorem read_congr {a b : List UInt8} (h : unframe a = unframe b) : read a = read b := by
  simp only [read, readRecord, h]

/-- NULs behind octets make no difference, nor do blanks around a text and NULs behind them, as
long as the text itself does not end with a NUL: the text within is the same, and so is the
offer or the fault that is read from it. -/
theorem read_padded :
    (∀ (octets : List UInt8) (n : Nat),
      unframe (octets ++ List.replicate n 0) = unframe octets ∧
        read (octets ++ List.replicate n 0) = read octets) ∧
    ∀ (w t w' : List Char) (n : Nat), (∀ c ∈ w, Text.isBlank c) → (∀ c ∈ w', Text.isBlank c) →
      (∀ c ∈ t.getLast?, c ≠ '\x00') →
      unframe (Utf8.encode (w ++ (t ++ w')) ++ List.replicate n 0) = unframe (Utf8.encode t) ∧
        read (Utf8.encode (w ++ (t ++ w')) ++ List.replicate n 0) = read (Utf8.encode t) := by
  constructor
  · intro octets n
    have hframe := unframe_append_replicate octets n
    exact ⟨hframe, read_congr hframe⟩
  · intro w t w' n hw hw' ht
    have hframe := unframe_padded hw hw' ht n
    exact ⟨hframe, read_congr hframe⟩

/-- A text that is no offer: a NUL stands in the middle of base64, and white space at the ends. -/
def interiorNul : List Char := " AAAA\x00AAA\u2003".toList

/-- The NUL is found at the same place whatever white space and NULs are put around the text. -/
theorem read_padded_interiorNul :
    (∀ c ∈ ['\u3000', '\n'], Text.isBlank c) ∧ (∀ c ∈ ['\u2028'], Text.isBlank c) ∧
      (∀ c ∈ interiorNul.getLast?, c ≠ '\x00') ∧
      read (Utf8.encode interiorNul) = .error (.malformed (.base64 (.invalidSymbol 0 4))) ∧
      read (Utf8.encode (['\u3000', '\n'] ++ (interiorNul ++ ['\u2028'])) ++ List.replicate 2 0) =
        .error (.malformed (.base64 (.invalidSymbol 0 4))) := by
  have hw' : ∀ c ∈ ['\u2028'], Text.isBlank c := List.forall_mem_singleton.2 (by decide)
  have hw : ∀ c ∈ ['\u3000', '\n'], Text.isBlank c :=
    List.forall_mem_cons.2 ⟨by decide, List.forall_mem_singleton.2 (by decide)⟩
  have hlast : ∀ c ∈ interiorNul.getLast?, c ≠ '\x00' := by
    intro c hc
    have hend : interiorNul.getLast? = some '\u2003' := by decide +kernel
    cases hend.symm.trans hc
    decide
  have hread : read (Utf8.encode interiorNul) =
      .error (.malformed (.base64 (.invalidSymbol 0 4))) := by decide +kernel
  have hpadded := (read_padded.2 _ interiorNul _ 2 hw hw' hlast).2
  exact ⟨hw, hw', hlast, hread, hpadded.trans hread⟩

end RtpBridge.Offer
