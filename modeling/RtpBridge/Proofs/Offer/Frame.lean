-- SUMMARY: What stands around and between the octets of an offer and the record in it.
import RtpBridge.Offer
import RtpBridge.Proofs.Base64
import RtpBridge.Proofs.Json.Record
import RtpBridge.Proofs.Text.Blank

/-!
# Frames of offers: laws

The steps from octets to a record, each with what it makes of octets that are cut short:
dropping NULs, decoding, trimming, choosing between the open and the base64 form, and
reading the record.
-/

namespace RtpBridge.Offer

/-! ## From octets to text -/

theorem unframe_eq_ok {octets : List UInt8} {t : List Char} :
    unframe octets = .ok t ↔
      ∃ text, dropNuls octets = Utf8.encode text ∧ Text.trim text = t ∧ t ≠ [] := by
  constructor
  · intro h
    simp only [unframe] at h
    split at h
    · cases h
    · next text htext =>
      split at h
      · cases h
      · next hne =>
        cases h
        exact ⟨text, Utf8.decode_eq_ok.1 htext, rfl, fun ht => hne (by rw [ht]; rfl)⟩
  · rintro ⟨text, htext, rfl, hne⟩
    have hempty : (Text.trim text).isEmpty = false := by
      rw [List.isEmpty_eq_false_iff]
      exact hne
    simp only [unframe, Utf8.decode_eq_ok.2 htext, hempty, Bool.false_eq_true, if_false]

theorem unframe_isPrefix {p r : List UInt8} {u v : List Char} (h : p <+: r)
    (hu : unframe p = .ok u) (hv : unframe r = .ok v) : u <+: v := by
  obtain ⟨s, hs, rfl, -⟩ := unframe_eq_ok.1 hu
  obtain ⟨t, ht, rfl, -⟩ := unframe_eq_ok.1 hv
  have hnuls : dropNuls p <+: dropNuls r := Text.rdropWhile_isPrefix h
  exact Text.trim_isPrefix
    (Utf8.decode_isPrefix hnuls (Utf8.decode_eq_ok.2 hs) (Utf8.decode_eq_ok.2 ht))

/-! ## From text to document -/

theorem document_of_brace {t : List Char} (h : t.head? = some '\x7b') :
    document t = .ok (Utf8.encode t) := by
  rw [document, if_pos h]

theorem document_of_base64 {t : List Char} {octets : List UInt8} (h : t.head? ≠ some '\x7b')
    (ht : Utf8.encode t = Base64.encode octets) : document t = .ok octets := by
  rw [document, if_neg h, ht, Base64.decode_encode]

/-- The form of a text shows at its first character, so a text cut short keeps its form. -/
theorem document_isPrefix {u v : List Char} {d e : List UInt8} (hne : u ≠ []) (h : u <+: v)
    (hd : document u = .ok d) (he : document v = .ok e) : d <+: e := by
  obtain ⟨t, rfl⟩ := h
  have hhead : (u ++ t).head? = u.head? := List.head?_append_of_ne_nil u hne
  have hprefix : Utf8.encode u <+: Utf8.encode (u ++ t) := by
    rw [Utf8.encode_append]
    exact List.prefix_append _ _
  rw [document] at hd he
  rw [hhead] at he
  split at hd
  · next hbrace =>
    rw [if_pos hbrace] at he
    cases hd
    cases he
    exact hprefix
  · next hbrace =>
    rw [if_neg hbrace] at he
    split at hd
    · cases hd
    · next hdd =>
      split at he
      · cases he
      · next hee =>
        cases hd
        cases he
        exact Base64.decode_isPrefix hprefix hdd hee

/-! ## From document to record -/

theorem format_isExact : ∀ field ∈ DescriptionRecord.format.fields, field.reader.IsExact := by
  intro field hfield
  simp only [DescriptionRecord.format, List.mem_cons, List.not_mem_nil, or_false] at hfield
  rcases hfield with rfl | rfl
  · exact (Json.variant_isExact _).map _
  · exact Json.text_isExact.map _

theorem readRecord_eq_ok {octets : List UInt8} {record : DescriptionRecord} :
    readRecord octets = .ok record ↔ ∃ t json, unframe octets = .ok t ∧ document t = .ok json ∧
      DescriptionRecord.ofJson json = .ok record := by
  constructor
  · intro h
    simp only [readRecord] at h
    split at h
    · cases h
    · next t ht =>
      split at h
      · cases h
      · next json hjson =>
        split at h
        · cases h
        · next hrecord =>
          cases h
          exact ⟨t, json, ht, hjson, hrecord⟩
  · rintro ⟨t, json, ht, hjson, hrecord⟩
    simp only [readRecord, ht, hjson, hrecord]

/-- Octets that hold a record hold no other when they are cut short. -/
theorem readRecord_eq_of_isPrefix {p r : List UInt8} {a b : DescriptionRecord} (h : p <+: r)
    (ha : readRecord p = .ok a) (hb : readRecord r = .ok b) : a = b := by
  obtain ⟨u, d, hu, hd, ha⟩ := readRecord_eq_ok.1 ha
  obtain ⟨v, e, hv, he, hb⟩ := readRecord_eq_ok.1 hb
  obtain ⟨_, -, -, hne⟩ := unframe_eq_ok.1 hu
  have hde : d <+: e := document_isPrefix hne (unframe_isPrefix h hu hv) hd he
  exact Json.Record.document_eq_of_isPrefix format_isExact hde ha hb

/-! ## From record to offer -/

theorem read_of_readRecord {octets : List UInt8} {record : DescriptionRecord}
    (h : readRecord octets = .ok record) :
    read octets = match ofRecord record with
      | .error cause => .error (.invalid cause)
      | .ok offer => .ok offer := by
  cases hr : ofRecord record <;> simp only [read, h, hr]

theorem read_eq_ok {octets : List UInt8} {offer : Offer} :
    read octets = .ok offer ↔
      ∃ record, readRecord octets = .ok record ∧ ofRecord record = .ok offer := by
  constructor
  · intro h
    cases hr : readRecord octets with
    | error cause =>
      simp only [read, hr] at h
      cases h
    | ok record =>
      refine ⟨record, rfl, ?_⟩
      rw [read_of_readRecord hr] at h
      split at h
      · cases h
      · next ho =>
        cases h
        exact ho
  · rintro ⟨record, hr, ho⟩
    rw [read_of_readRecord hr, ho]

/-! ## The two forms -/

/-- What is read from octets whose document is `json`. -/
def ofDocument (json : List UInt8) : Except Fault Offer :=
  match DescriptionRecord.ofJson json with
  | .error fault => .error (.malformed (.json fault))
  | .ok record =>
    match ofRecord record with
    | .error cause => .error (.invalid cause)
    | .ok offer => .ok offer

theorem read_of_document {octets json : List UInt8} {t : List Char}
    (ht : unframe octets = .ok t) (hjson : document t = .ok json) :
    read octets = ofDocument json := by
  cases hr : DescriptionRecord.ofJson json with
  | error fault => simp only [read, readRecord, ht, hjson, ofDocument, hr]
  | ok record =>
    cases ho : ofRecord record <;> simp only [read, readRecord, ht, hjson, ofDocument, hr, ho]

theorem dropNuls_encode {t : List Char} (h : ∀ c ∈ t.getLast?, c ≠ '\x00') :
    dropNuls (Utf8.encode t) = Utf8.encode t := by
  refine Text.rdropWhile_eq_self_of_getLast? fun b hb hzero => ?_
  obtain ⟨s, hs⟩ := List.getLast?_eq_some_iff.1 hb
  rw [beq_iff_eq.1 hzero] at hs
  obtain ⟨ds, rfl, -⟩ := Utf8.exists_of_encode_eq_concat (by decide) hs
  exact h (Utf8.ascii 0) List.getLast?_concat rfl

/-- A text that ends with no NUL does not end with one when blanks are put around it. -/
theorem getLast?_ne_nul {w t w' : List Char} (hw : ∀ c ∈ w, Text.isBlank c)
    (hw' : ∀ c ∈ w', Text.isBlank c) (ht : ∀ c ∈ t.getLast?, c ≠ '\x00') :
    ∀ c ∈ (w ++ (t ++ w')).getLast?, c ≠ '\x00' := by
  have hblank : ∀ s : List Char, (∀ c ∈ s, Text.isBlank c) → ∀ c ∈ s.getLast?, c ≠ '\x00' := by
    rintro s hs c hc rfl
    exact absurd (hs _ (List.mem_of_getLast? hc)) (by decide)
  intro c hc
  rw [List.getLast?_append, List.getLast?_append, Option.mem_def, Option.or_eq_some_iff,
    Option.or_eq_some_iff] at hc
  rcases hc with (hc | ⟨-, hc⟩) | ⟨-, hc⟩
  · exact hblank w' hw' c hc
  · exact ht c hc
  · exact hblank w hw c hc

/-- A text in the open, with white space around it, is the document itself. -/
theorem read_encode {w t w' : List Char} (hw : ∀ c ∈ w, Text.isBlank c)
    (hw' : ∀ c ∈ w', Text.isBlank c) (hhead : t.head? = some '\x7b')
    (hlast : ∀ c ∈ t.getLast?, ¬Text.isBlank c ∧ c ≠ '\x00') :
    read (Utf8.encode (w ++ (t ++ w'))) = ofDocument (Utf8.encode t) := by
  have htrimmed : Text.IsTrimmed t := by
    refine ⟨fun c hc => ?_, fun c hc => (hlast c hc).1⟩
    rw [hhead] at hc
    cases hc
    decide
  have hne : t ≠ [] := by
    rintro rfl
    cases hhead
  have hnul := getLast?_ne_nul hw hw' fun c hc => (hlast c hc).2
  have htrim : Text.trim (w ++ (t ++ w')) = t := htrimmed.trim_append hw hw'
  exact read_of_document (unframe_eq_ok.2 ⟨_, dropNuls_encode hnul, htrim, hne⟩)
    (document_of_brace hhead)

/-- A document in base64 is read as such, whatever it is. -/
theorem read_base64 {json : List UInt8} (hne : json ≠ []) :
    read (Base64.encode json) = ofDocument json := by
  have hascii : ∀ b ∈ Base64.encode json, b.toNat < 0x80 := by
    intro b hb
    have := Base64.toNat_bounds_of_mem_encode b hb
    omega
  have hencode := Utf8.encode_map_ascii hascii
  have hbounds : ∀ c ∈ (Base64.encode json).map Utf8.ascii, 0x20 < c.toNat ∧ c.toNat < 0x7B := by
    intro c hc
    obtain ⟨b, hb, rfl⟩ := List.mem_map.1 hc
    rw [Utf8.toNat_ascii (hascii b hb)]
    exact Base64.toNat_bounds_of_mem_encode b hb
  have hblank : ∀ c ∈ (Base64.encode json).map Utf8.ascii, ¬Text.isBlank c := by
    intro c hc
    obtain ⟨hl, hu⟩ := hbounds c hc
    exact Text.not_isBlank_of_visible hl (by omega)
  have htrimmed : Text.IsTrimmed ((Base64.encode json).map Utf8.ascii) :=
    ⟨fun c hc => hblank c (List.mem_of_head? hc), fun c hc => hblank c (List.mem_of_getLast? hc)⟩
  have hnul : ∀ c ∈ ((Base64.encode json).map Utf8.ascii).getLast?, c ≠ '\x00' := by
    rintro c hc rfl
    exact absurd (hbounds _ (List.mem_of_getLast? hc)).1 (by decide)
  have hbrace : ((Base64.encode json).map Utf8.ascii).head? ≠ some '\x7b' := by
    intro hc
    exact absurd (hbounds _ (List.mem_of_head? hc)).2 (by decide)
  have hne' : (Base64.encode json).map Utf8.ascii ≠ [] := by
    intro h
    exact hne (Base64.eq_nil_of_encode_eq_nil (List.map_eq_nil_iff.1 h))
  refine read_of_document (unframe_eq_ok.2 ⟨_, ?_, htrimmed.trim_eq, hne'⟩)
    (document_of_base64 hbrace hencode)
  have hdrop := dropNuls_encode hnul
  rw [hencode] at hdrop ⊢
  exact hdrop

end RtpBridge.Offer
