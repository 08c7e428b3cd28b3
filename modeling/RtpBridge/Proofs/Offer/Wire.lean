-- SUMMARY: Every way to write an offer as a JSON object is read as the offer that was written.
import RtpBridge.Proofs.Json.Members
import RtpBridge.Proofs.Offer.Frame

/-!
# Offers on the wire

A peer may write an offer with its members in any order, among members of other names,
with blanks between tokens and with any escapes. What is read is the text that was
written, character by character, if the text passes as a session description
(`Offer.read_of_objectText`).
-/

namespace RtpBridge.Offer

open Json (Member Literal Value VariantText ObjectText Blanks isBlank openBrace blanks_nil
  blanks_singleton)

/-- A member that the record of a description does not know. -/
structure IsOther (m : Member) : Prop where
  key : ∃ name, Literal name m.key ∧ name ≠ "type" ∧ name ≠ "sdp"
  value : Value m.value

/-- The members of an offer of the description `s`, in any order and among others. -/
inductive IsOfferOf (s : String) (ms : List Member) : Prop where
  | mk {kind sdp : Member} {others : List Member} (hms : ms.Perm (kind :: sdp :: others))
      (hkind : Literal "type" kind.key) (hoffer : Literal "offer" kind.value)
      (hsdp : Literal "sdp" sdp.key) (htext : Literal s sdp.value)
      (hothers : ∀ m ∈ others, IsOther m)

/-! ## Filling the draft -/

theorem fills_others {draft : DescriptionRecord.Draft} {ms : List Member}
    (h : ∀ m ∈ ms, IsOther m) : DescriptionRecord.format.Fills draft ms draft := by
  refine Json.Record.fills_of_unknown fun m hm => ?_
  obtain ⟨name, hkey, htype, hsdp⟩ := (h m hm).key
  refine ⟨name, hkey, ?_, (h m hm).value⟩
  simp only [DescriptionRecord.format, List.find?_cons, List.find?_nil,
    beq_eq_false_iff_ne.2 htype.symm, beq_eq_false_iff_ne.2 hsdp.symm]

theorem sets_kind {kind : DescriptionKind} {m : Member} {draft : DescriptionRecord.Draft}
    (hdraft : draft.kind = none) (hkey : Literal "type" m.key)
    (hvalue : VariantText kind.name m.value) :
    DescriptionRecord.format.Sets m draft { draft with kind := some kind } := by
  have hread : DescriptionRecord.kindReader.Takes m.value kind :=
    hvalue.takes (by cases kind <;> rfl)
  have hfield : DescriptionRecord.format.fields.find? (·.name == "type") =
      some ⟨"type", (·.kind.isSome), DescriptionRecord.kindReader.map
        fun kind draft => { draft with kind := some kind }⟩ := rfl
  have hset : draft.kind.isSome = false := by rw [hdraft]; rfl
  exact .known hkey hfield hset (hread.map _)

theorem sets_text {s : String} {m : Member} {draft : DescriptionRecord.Draft}
    (hdraft : draft.text = none) (hkey : Literal "sdp" m.key) (hvalue : Literal s m.value) :
    DescriptionRecord.format.Sets m draft { draft with text := some s } := by
  have hfield : DescriptionRecord.format.fields.find? (·.name == "sdp") =
      some ⟨"sdp", (·.text.isSome), Json.text.map
        fun text draft => { draft with text := some text }⟩ := rfl
  have hset : draft.text.isSome = false := by rw [hdraft]; rfl
  exact .known hkey hfield hset (hvalue.takes.map _)

/-- The two fields of a description keep apart. -/
theorem format_isLoose : DescriptionRecord.format.IsLoose where
  apart := by
    simp only [DescriptionRecord.format, List.pairwise_cons, List.forall_mem_singleton]
    refine ⟨?_, fun _ h => absurd h List.not_mem_nil, .nil⟩
    exact Json.Field.isApart_putting (fun _ _ _ => rfl) (fun _ _ => rfl) (fun _ _ => rfl)
  sets := by
    simp only [DescriptionRecord.format, List.forall_mem_cons, List.not_mem_nil, false_implies]
    refine ⟨fun h draft => ?_, fun h draft => ?_, fun _ => trivial⟩
    · obtain ⟨kind, rfl⟩ := Json.Field.exists_put h
      rfl
    · obtain ⟨text, rfl⟩ := Json.Field.exists_put h
      rfl

/-- The two members of a description fill the draft, wherever among the others they stand. -/
theorem fills_of_members {record : DescriptionRecord} {ms others : List Member}
    {kind text : Member} (hms : ms.Perm (kind :: text :: others))
    (hkind : Literal "type" kind.key) (hname : VariantText record.kind.name kind.value)
    (hsdp : Literal "sdp" text.key) (htext : Literal record.text text.value)
    (hothers : ∀ m ∈ others, IsOther m) :
    DescriptionRecord.format.Fills DescriptionRecord.format.empty ms
      ⟨some record.kind, some record.text⟩ := by
  refine .perm format_isLoose hms.symm ?_
  exact .cons (sets_kind rfl hkind hname) (.cons (sets_text rfl hsdp htext) (fills_others hothers))

theorem fills_of_isOfferOf {s : String} {ms : List Member} (h : IsOfferOf s ms) :
    DescriptionRecord.format.Fills DescriptionRecord.format.empty ms ⟨some .offer, some s⟩ := by
  cases h with
  | mk hms hkind hoffer hsdp htext hothers =>
    have hname : VariantText (DescriptionRecord.mk .offer s).kind.name _ := .string hoffer
    exact fills_of_members hms hkind hname hsdp htext hothers

/-! ## Reading the record -/

theorem ofJson_of_isOfferOf {s : String} {ms : List Member} {o : List UInt8}
    (h : IsOfferOf s ms) (ho : ObjectText ms o) :
    DescriptionRecord.ofJson o = .ok ⟨.offer, s⟩ := by
  cases ho with
  | @mk w o w' hw hms ho hw' =>
    refine (Json.Record.document_eq_ok format_isExact).2
      ⟨w, openBrace :: o, w', hw, .object hms (fills_of_isOfferOf h) ho rfl, hw', ?_⟩
    rw [List.cons_append]

theorem ofDocument_of_isOfferOf {s : String} {ms : List Member} {o : List UInt8}
    (h : IsOfferOf s ms) (ho : ObjectText ms o) :
    (∀ d, Sdp.Description.parse s.toList = .ok d → ofDocument o = .ok ⟨s⟩) ∧
    (∀ fault, Sdp.Description.parse s.toList = .error fault →
      ofDocument o = .error (.invalid (.sdp fault))) := by
  have hrecord := ofJson_of_isOfferOf h ho
  constructor
  · intro d hd
    simp only [ofDocument, hrecord, ofRecord, ne_eq, not_true_eq_false, if_false, hd]
  · intro fault hfault
    simp only [ofDocument, hrecord, ofRecord, ne_eq, not_true_eq_false, if_false, hfault]

/-! ## The text in the open -/

theorem lt_of_isBlank {b : UInt8} (h : isBlank b) : b.toNat < 0x80 := by
  simp only [isBlank, Bool.or_eq_true, beq_iff_eq] at h
  rcases h with ((rfl | rfl) | rfl) | rfl <;> decide

theorem isBlank_ascii {w : List UInt8} (hw : Blanks w) :
    ∀ c ∈ w.map Utf8.ascii, Text.isBlank c := by
  intro c hc
  obtain ⟨b, hb, rfl⟩ := List.mem_map.1 hc
  have h := hw b hb
  simp only [isBlank, Bool.or_eq_true, beq_iff_eq] at h
  rcases h with ((rfl | rfl) | rfl) | rfl <;> decide

theorem ne_nil_of_objectText {ms : List Member} {o : List UInt8} (h : ObjectText ms o) :
    o ≠ [] := by
  cases h
  exact List.append_ne_nil_of_right_ne_nil _ (List.cons_ne_nil _ _)

/-- The blanks around an object in a text are white space around the object's own text. -/
theorem exists_text_of_objectText {ms : List Member} {t : List Char}
    (h : ObjectText ms (Utf8.encode t)) :
    ∃ w u w', t = w ++ (u ++ w') ∧ (∀ c ∈ w, Text.isBlank c) ∧ (∀ c ∈ w', Text.isBlank c) ∧
      u.head? = some '\x7b' ∧ u.getLast? = some '\x7d' ∧ ObjectText ms (Utf8.encode u) := by
  generalize ht : Utf8.encode t = o at h
  cases h with
  | @mk w o w' hw hms ho hw' =>
    have hascii {w : List UInt8} (hw : Blanks w) : ∀ b ∈ w, b.toNat < 0x80 :=
      fun b hb => lt_of_isBlank (hw b hb)
    rw [← List.cons_append] at ht
    obtain ⟨v, rfl, hv⟩ := Utf8.exists_of_encode_eq_append_left (hascii hw) ht
    obtain ⟨u, rfl, hu⟩ := Utf8.exists_of_encode_eq_append_right (hascii hw') hv
    refine ⟨_, u, _, rfl, isBlank_ascii hw, isBlank_ascii hw', ?_, ?_, ?_⟩
    · obtain ⟨x, rfl, -⟩ := Utf8.exists_of_encode_eq_cons (by decide) hu
      rfl
    · obtain ⟨p, rfl⟩ := ho.exists_concat
      rw [← List.cons_append] at hu
      obtain ⟨x, rfl, -⟩ := Utf8.exists_of_encode_eq_concat (by decide) hu
      exact List.getLast?_concat
    · rw [hu]
      have := ObjectText.mk blanks_nil hms ho blanks_nil
      rwa [List.nil_append, List.append_nil] at this

/-- However an offer is written as an object, in the open or in base64, reading gives back the
description that it makes, or says what is wrong with that description. -/
theorem read_of_objectText {s : String} {ms : List Member} {t : List Char} {octets : List UInt8}
    (hms : IsOfferOf s ms) (ht : ObjectText ms (Utf8.encode t))
    (hoctets : octets = Utf8.encode t ∨ octets = Base64.encode (Utf8.encode t)) :
    (∀ d, Sdp.Description.parse s.toList = .ok d → read octets = .ok ⟨s⟩) ∧
    (∀ fault, Sdp.Description.parse s.toList = .error fault →
      read octets = .error (.invalid (.sdp fault))) := by
  rcases hoctets with rfl | rfl
  · obtain ⟨w, u, w', rfl, hw, hw', hhead, hlast, hu⟩ := exists_text_of_objectText ht
    have hend : ∀ c ∈ u.getLast?, ¬Text.isBlank c ∧ c ≠ '\x00' := by
      intro c hc
      rw [hlast] at hc
      cases hc
      decide
    rw [read_encode hw hw' hhead hend]
    exact ofDocument_of_isOfferOf hms hu
  · rw [read_base64 (ne_nil_of_objectText ht)]
    exact ofDocument_of_isOfferOf hms ht

/-! ## One offer, spelled with every kind of escape -/

/-- A member of which key, blanks and value are given as texts. -/
def memberOf (key before after value : String) : Member :=
  ⟨Utf8.encode key.toList, Utf8.encode before.toList, Utf8.encode after.toList,
    Utf8.encode value.toList⟩

def textOf (key before after value : String) : List Char :=
  key.toList ++ (before.toList ++ ':' :: (after.toList ++ value.toList))

theorem encode_textOf (key before after value : String) :
    Utf8.encode (textOf key before after value) = (memberOf key before after value).octets := by
  simp only [textOf, Utf8.encode_append, Utf8.encode_cons]
  rfl

def spelledText : String := "v=0\no=- 1 1 IN IP4 0\ns=é😀\nt=0 0\n"

def spelledSdp : String := "\"\\u0076=0\\no=- 1 1 IN IP4 0\\ns=é\\ud83d\\uDE00\\nt=0 0\\n\""

/-- A member of an unknown name with a lone surrogate in its value, the description, the type. -/
def spelledMembers : List Member :=
  [memberOf "\"x\"" "" "" "[\x7b\"a\":-1.5e+3\x7d, \"\\ud800\" ]",
    memberOf "\"sdp\"" " " "\t" spelledSdp, memberOf "\"\\u0074ype\"" "" "" "\"offer\""]

/-- The object of the three members. -/
def spelled : List Char :=
  ' ' :: '\x7b' :: (textOf "\"x\"" "" "" "[\x7b\"a\":-1.5e+3\x7d, \"\\ud800\" ]" ++
    (',' :: '\n' :: (textOf "\"sdp\"" " " "\t" spelledSdp ++
      (',' :: (textOf "\"\\u0074ype\"" "" "" "\"offer\"" ++ [' ', '\x7d', '\n'])))))

theorem isOfferOf_spelled : IsOfferOf spelledText spelledMembers := by
  have hkind : Literal "type" (Utf8.encode "\"\\u0074ype\"".toList) :=
    .of_readString_tail (by decide +kernel)
  have hoffer : Literal "offer" (Utf8.encode "\"offer\"".toList) :=
    .of_readString_tail (by decide +kernel)
  have hsdp : Literal "sdp" (Utf8.encode "\"sdp\"".toList) :=
    .of_readString_tail (by decide +kernel)
  have htext : Literal spelledText (Utf8.encode spelledSdp.toList) :=
    .of_readString_tail (by decide +kernel)
  have hname : Literal "x" (Utf8.encode "\"x\"".toList) :=
    .of_readString_tail (by decide +kernel)
  have hvalue : Value (Utf8.encode "[\x7b\"a\":-1.5e+3\x7d, \"\\ud800\" ]".toList) :=
    .of_skipValue (by decide +kernel) (by decide +kernel)
  refine .mk (List.reverse_perm spelledMembers).symm hkind hoffer hsdp htext fun m hm => ?_
  rw [List.mem_singleton.1 hm]
  exact ⟨⟨"x", hname, by decide, by decide⟩, hvalue⟩

theorem objectText_spelled : ObjectText spelledMembers (Utf8.encode spelled) := by
  have hspace : Blanks [0x20] := blanks_singleton rfl
  have htab : Blanks [0x09] := blanks_singleton rfl
  have hline : Blanks [0x0A] := blanks_singleton rfl
  have hspaced : ∀ m ∈ spelledMembers, m.IsSpaced := by
    simp only [spelledMembers, List.forall_mem_cons]
    exact ⟨⟨blanks_nil, blanks_nil⟩, ⟨hspace, htab⟩, ⟨blanks_nil, blanks_nil⟩,
      fun _ hm => nomatch hm⟩
  have htext := ObjectText.mk hspace hspaced (.cons (.first blanks_nil)
    (.cons (.next blanks_nil hline) (.cons (.next blanks_nil blanks_nil) (.nil hspace)))) hline
  simp only [spelled, Utf8.encode_cons, Utf8.encode_append, encode_textOf]
  simp only [List.append_assoc] at htext ⊢
  exact htext

theorem read_of_objectText_spelled :
    IsOfferOf spelledText spelledMembers ∧ ObjectText spelledMembers (Utf8.encode spelled) ∧
      read (Utf8.encode spelled) = .ok ⟨spelledText⟩ ∧
      read (Base64.encode (Utf8.encode spelled)) = .ok ⟨spelledText⟩ := by
  have hd : Sdp.Description.parse spelledText.toList = .ok ⟨[], []⟩ := by decide +kernel
  exact ⟨isOfferOf_spelled, objectText_spelled,
    (read_of_objectText isOfferOf_spelled objectText_spelled (.inl rfl)).1 _ hd,
    (read_of_objectText isOfferOf_spelled objectText_spelled (.inr rfl)).1 _ hd⟩

end RtpBridge.Offer
