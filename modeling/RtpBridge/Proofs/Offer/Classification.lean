-- SUMMARY: Which octets are an offer, which are a description that is none, and which are neither.
import RtpBridge.Proofs.Offer.Record

/-!
# What octets are read as

`Carries` says without a reader which JSON document stands in octets, in the open or in
base64; there is one at most (`Carries.unique`). By that document alone the octets are an
offer, a description that is no usable offer, or malformed (`Offer.read_classifies`).
-/

namespace RtpBridge.Offer

open Json (DocumentText)

/-! ## The document in the octets -/

/-- That a text stands in octets, with white space around it and NULs behind it. -/
inductive Frames (t : List Char) : List UInt8 → Prop where
  | mk {w w' : List Char} {n : Nat} (hw : ∀ c ∈ w, Text.isBlank c)
      (hw' : ∀ c ∈ w', Text.isBlank c) (ht : Text.IsTrimmed t)
      (hlast : ∀ c ∈ (w ++ (t ++ w')).getLast?, c ≠ '\x00') :
      Frames t (Utf8.encode (w ++ (t ++ w')) ++ List.replicate n 0)

/-- That a text holds a document: it is the document itself if it begins an object, else the
document in base64. -/
inductive Holds (t : List Char) : Form → List UInt8 → Prop where
  | plain (hhead : t.head? = some '\x7b') : Holds t .plain (Utf8.encode t)
  | base64 {json : List UInt8} (hhead : t.head? ≠ some '\x7b')
      (ht : Utf8.encode t = Base64.encode json) : Holds t .base64 json

def Carries (octets : List UInt8) (form : Form) (json : List UInt8) : Prop :=
  ∃ t, Frames t octets ∧ Holds t form json

theorem frames_iff {octets : List UInt8} {t : List Char} :
    Frames t octets ↔ ∃ text, dropNuls octets = Utf8.encode text ∧ Text.trim text = t := by
  constructor
  · rintro @⟨w, w', n, hw, hw', ht, hlast⟩
    have hzeros : ∀ b ∈ List.replicate n (0 : UInt8), b == 0 :=
      fun b hb => beq_iff_eq.2 (List.eq_of_mem_replicate hb)
    exact ⟨_, (Text.rdropWhile_append_of_pos hzeros).trans (dropNuls_encode hlast),
      ht.trim_append hw hw'⟩
  · rintro ⟨text, htext, rfl⟩
    obtain ⟨zeros, hoctets, hzeros, hlast⟩ := Text.exists_eq_rdropWhile_append (· == 0) octets
    obtain ⟨w, w', htrim, hw, hw', ht⟩ := Text.exists_eq_append_trim text
    have hreplicate : zeros = List.replicate zeros.length 0 :=
      List.eq_replicate_of_mem fun b hb => beq_iff_eq.1 (hzeros b hb)
    have hdrop : octets.rdropWhile (· == 0) = Utf8.encode text := htext
    rw [hdrop] at hoctets hlast
    have hnul : ∀ c ∈ (w ++ (Text.trim text ++ w')).getLast?, c ≠ '\x00' := by
      rw [← htrim]
      rintro c hc rfl
      obtain ⟨cs, hcs⟩ := List.getLast?_eq_some_iff.1 hc
      refine hlast 0 ?_ rfl
      rw [hcs, Utf8.encode_append]
      exact List.getLast?_concat
    have hframes := Frames.mk (n := zeros.length) hw hw' ht hnul
    rwa [← htrim, ← hreplicate, ← hoctets] at hframes

theorem Frames.unique {octets : List UInt8} {t t' : List Char} (h : Frames t octets)
    (h' : Frames t' octets) : t = t' := by
  obtain ⟨text, htext, rfl⟩ := frames_iff.1 h
  obtain ⟨text', htext', rfl⟩ := frames_iff.1 h'
  have hdecode : Utf8.decode (dropNuls octets) = .ok text := Utf8.decode_eq_ok.2 htext
  rw [Utf8.decode_eq_ok.2 htext'] at hdecode
  cases hdecode
  rfl

theorem unframe_eq_ok_iff {octets : List UInt8} {t : List Char} :
    unframe octets = .ok t ↔ Frames t octets ∧ t ≠ [] := by
  simp only [unframe_eq_ok, frames_iff, ← exists_and_right, and_assoc]

theorem document_eq_ok {t : List Char} {json : List UInt8} :
    document t = .ok json ↔ ∃ form, Holds t form json := by
  constructor
  · intro h
    simp only [document] at h
    split at h
    · next hhead =>
      cases h
      exact ⟨.plain, .plain hhead⟩
    · next hhead =>
      split at h
      · cases h
      · next hdecode =>
        cases h
        exact ⟨.base64, .base64 hhead (Base64.decode_eq_ok.1 hdecode)⟩
  · rintro ⟨form, h⟩
    cases h with
    | plain hhead => exact document_of_brace hhead
    | base64 hhead ht => exact document_of_base64 hhead ht

theorem Holds.unique {t : List Char} {form form' : Form} {json json' : List UInt8}
    (h : Holds t form json) (h' : Holds t form' json') : form = form' ∧ json = json' := by
  have hjson : document t = .ok json := document_eq_ok.2 ⟨form, h⟩
  rw [document_eq_ok.2 ⟨form', h'⟩] at hjson
  cases hjson
  cases h with
  | plain hhead =>
    cases h' with
    | plain => exact ⟨rfl, rfl⟩
    | base64 hne => exact absurd hhead hne
  | base64 hne =>
    cases h' with
    | plain hhead => exact absurd hhead hne
    | base64 => exact ⟨rfl, rfl⟩

theorem Holds.ne_nil {t : List Char} {form : Form} {json : List UInt8} (h : Holds t form json)
    (hjson : json ≠ []) : t ≠ [] := by
  rintro rfl
  cases h with
  | plain hhead => cases hhead
  | base64 _ ht =>
    have hdecode : Base64.decode [] = .ok json := Base64.decode_eq_ok.2 ht
    exact hjson (Except.ok.inj hdecode).symm

/-- Octets carry one document at most. -/
theorem Carries.unique {octets : List UInt8} {form form' : Form} {json json' : List UInt8}
    (h : Carries octets form json) (h' : Carries octets form' json') :
    form = form' ∧ json = json' := by
  obtain ⟨t, hframes, hholds⟩ := h
  obtain ⟨t', hframes', hholds'⟩ := h'
  obtain rfl := hframes.unique hframes'
  exact hholds.unique hholds'

/-! ## What the document says -/

/-- Why a description is no usable offer: it is none, or its text does not pass. -/
inductive Refuses (record : DescriptionRecord) : Invalid → Prop where
  | notAnOffer (hkind : record.kind ≠ .offer) : Refuses record (.notAnOffer record.kind)
  | sdp {fault : Sdp.Fault} (hkind : record.kind = .offer)
      (htext : Sdp.Description.parse record.text.toList = .error fault) :
      Refuses record (.sdp fault)

theorem ofRecord_eq_ok {record : DescriptionRecord} {offer : Offer} :
    ofRecord record = .ok offer ↔ record = ⟨.offer, offer.text⟩ ∧
      ∃ d, Sdp.Description.parse offer.text.toList = .ok d := by
  constructor
  · intro h
    simp only [ofRecord] at h
    split at h
    · cases h
    · next hkind =>
      split at h
      · cases h
      · next d hd =>
        cases h
        rw [← Decidable.not_not.1 hkind]
        exact ⟨rfl, d, hd⟩
  · rintro ⟨rfl, d, hd⟩
    simp only [ofRecord, ne_eq, not_true_eq_false, if_false, hd]

theorem ofRecord_eq_error {record : DescriptionRecord} {cause : Invalid} :
    ofRecord record = .error cause ↔ Refuses record cause := by
  constructor
  · intro h
    simp only [ofRecord] at h
    split at h
    · next hkind =>
      cases h
      exact .notAnOffer hkind
    · next hkind =>
      split at h
      · next htext =>
        cases h
        exact .sdp (Decidable.not_not.1 hkind) htext
      · cases h
  · intro h
    cases h with
    | notAnOffer hkind => simp only [ofRecord, ne_eq, hkind, not_false_eq_true, if_true]
    | sdp hkind htext => simp only [ofRecord, ne_eq, hkind, not_true_eq_false, if_false, htext]

theorem describes_iff_ofJson {t : List Char} {form : Form} {json : List UInt8}
    {record : DescriptionRecord} (h : Holds t form json) :
    Describes record form json ↔ DescriptionRecord.ofJson json = .ok record := by
  rw [ofJson_eq_ok]
  cases h with
  | base64 => exact Iff.rfl
  | plain hhead =>
    obtain ⟨rest, rfl⟩ := List.head?_eq_some_iff.1 hhead
    exact describes_plain_iff

theorem readRecord_eq_ok_iff {octets : List UInt8} {record : DescriptionRecord} :
    readRecord octets = .ok record ↔
      ∃ form json, Carries octets form json ∧ Describes record form json := by
  refine readRecord_eq_ok.trans ⟨?_, ?_⟩
  · rintro ⟨t, json, ht, hjson, hrecord⟩
    obtain ⟨form, hholds⟩ := document_eq_ok.1 hjson
    exact ⟨form, json, ⟨t, (unframe_eq_ok_iff.1 ht).1, hholds⟩,
      (describes_iff_ofJson hholds).2 hrecord⟩
  · rintro ⟨form, json, ⟨t, hframes, hholds⟩, hrecord⟩
    exact ⟨t, json, unframe_eq_ok_iff.2 ⟨hframes, hholds.ne_nil hrecord.ne_nil⟩,
      document_eq_ok.2 ⟨form, hholds⟩, (describes_iff_ofJson hholds).1 hrecord⟩

/-! ## Classification -/

theorem read_eq_malformed {octets : List UInt8} {cause : Malformed} :
    read octets = .error (.malformed cause) ↔ readRecord octets = .error cause := by
  cases hr : readRecord octets with
  | error cause' => simp only [read, hr, Except.error.injEq, Fault.malformed.injEq]
  | ok record =>
    rw [read_of_readRecord hr]
    cases ofRecord record <;> simp

theorem read_eq_invalid {octets : List UInt8} {cause : Invalid} :
    read octets = .error (.invalid cause) ↔
      ∃ record, readRecord octets = .ok record ∧ ofRecord record = .error cause := by
  cases hr : readRecord octets with
  | error cause' => simp [read, hr]
  | ok record =>
    rw [read_of_readRecord hr]
    cases ho : ofRecord record <;> simp [ho]

/-- Octets are read as an offer just when their document is a description of type offer that
passes, as an invalid one just when it is a description that is none or does not pass, and else
they are malformed. -/
theorem read_classifies (octets : List UInt8) :
    (∀ offer, read octets = .ok offer ↔
      ∃ form json, Carries octets form json ∧ DocumentText json ∧
        Describes ⟨.offer, offer.text⟩ form json ∧
        ∃ d, Sdp.Description.parse offer.text.toList = .ok d) ∧
    (∀ cause, read octets = .error (.invalid cause) ↔
      ∃ form json record, Carries octets form json ∧ DocumentText json ∧
        Describes record form json ∧ Refuses record cause) ∧
    ((∃ cause, read octets = .error (.malformed cause)) ↔
      ¬∃ form json record, Carries octets form json ∧ Describes record form json) := by
  refine ⟨fun offer => ?offer, fun cause => ?invalid, ?malformed⟩
  case offer =>
    simp only [read_eq_ok, readRecord_eq_ok_iff, ofRecord_eq_ok]
    constructor
    · rintro ⟨record, ⟨form, json, hcarries, hrecord⟩, rfl, hd⟩
      exact ⟨form, json, hcarries, hrecord.documentText, hrecord, hd⟩
    · rintro ⟨form, json, hcarries, -, hrecord, hd⟩
      exact ⟨_, ⟨form, json, hcarries, hrecord⟩, rfl, hd⟩
  case invalid =>
    simp only [read_eq_invalid, readRecord_eq_ok_iff, ofRecord_eq_error]
    constructor
    · rintro ⟨record, ⟨form, json, hcarries, hrecord⟩, hrefuses⟩
      exact ⟨form, json, record, hcarries, hrecord.documentText, hrecord, hrefuses⟩
    · rintro ⟨form, json, record, hcarries, -, hrecord, hrefuses⟩
      exact ⟨record, ⟨form, json, hcarries, hrecord⟩, hrefuses⟩
  case malformed =>
    simp only [read_eq_malformed]
    constructor
    · rintro ⟨cause, hcause⟩ ⟨form, json, record, h⟩
      rw [readRecord_eq_ok_iff.2 ⟨form, json, h⟩] at hcause
      cases hcause
    · intro h
      cases hr : readRecord octets with
      | error cause => exact ⟨cause, rfl⟩
      | ok record =>
        obtain ⟨form, json, hrecord⟩ := readRecord_eq_ok_iff.1 hr
        exact absurd ⟨form, json, record, hrecord⟩ h

/-- An array of the two values, which only base64 can carry. -/
def listed : List Char := "[\"offer\",\"v=0\\no=- 1 1 IN IP4 0\\ns=-\\nt=0 0\\n\"]".toList

example : read (Base64.encode (Utf8.encode listed)) =
    .ok ⟨"v=0\no=- 1 1 IN IP4 0\ns=-\nt=0 0\n"⟩ := by decide +kernel

end RtpBridge.Offer
