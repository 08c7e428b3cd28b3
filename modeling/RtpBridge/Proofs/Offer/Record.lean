-- SUMMARY: Which JSON texts are records of a description: each of the two members just once.
import RtpBridge.Proofs.Offer.Wire

/-!
# Records of descriptions

`Describes` says without a reader which octets write a record: an object that has its two
members once each, whatever spelling their keys have and whatever other members stand among
them, or an array of the two values. `ofJson_eq_ok` says that these are just the octets that
are read as that record.
-/

namespace RtpBridge.Offer

open Json (Member Literal LooseLiteral Value Scalar VariantText ObjectText DocumentText Listing
  Blanks openBrace openBracket closeBracket closeBrace)

/-! ## The members of a record -/

structure IsKind (kind : DescriptionKind) (m : Member) : Prop where
  key : Literal "type" m.key
  value : VariantText kind.name m.value

structure IsText (text : String) (m : Member) : Prop where
  key : Literal "sdp" m.key
  value : Literal text m.value

/-- That the members of an object are those of the record, once each, and others. -/
inductive IsRecordOf (record : DescriptionRecord) (ms : List Member) : Prop where
  | mk {kind text : Member} {others : List Member} (hms : ms.Perm (kind :: text :: others))
      (hkind : IsKind record.kind kind) (htext : IsText record.text text)
      (hothers : ∀ m ∈ others, IsOther m)

/-- The two forms in which an offer comes. -/
inductive Form where
  | plain
  | base64
deriving Repr, DecidableEq

/-- That a JSON document writes the record. Only in base64 it may be an array, since a text in
the open is none unless it begins an object. -/
inductive Describes (record : DescriptionRecord) : Form → List UInt8 → Prop where
  | object {form : Form} {ms : List Member} {json : List UInt8} (hms : IsRecordOf record ms)
      (hjson : ObjectText ms json) : Describes record form json
  | array {w o w' kind text : List UInt8} (hw : Blanks w)
      (hkind : VariantText record.kind.name kind) (htext : Literal record.text text)
      (ho : Listing closeBracket true [kind, text] o) (hw' : Blanks w') :
      Describes record .base64 (w ++ (openBracket :: o ++ w'))

/-! ## What sets a draft -/

theorem kindReader_takes {kind : DescriptionKind} {o : List UInt8} :
    DescriptionRecord.kindReader.Takes o kind ↔ VariantText kind.name o := by
  refine Json.variant_takes.trans ⟨?_, fun h => ⟨_, by cases kind <;> rfl, h⟩⟩
  rintro ⟨name, hname, ho⟩
  simp only [Json.variantOf] at hname
  split at hname
  · next kind' hlookup =>
    cases hname
    obtain ⟨l, r, hl, -⟩ := List.lookup_eq_some_iff.1 hlookup
    have hmem : (name, kind) ∈ DescriptionKind.all.map fun kind => (kind.name, kind) :=
      hl ▸ List.mem_append_right l List.mem_cons_self
    obtain ⟨kind', -, heq⟩ := List.mem_map.1 hmem
    cases heq
    exact ho
  · cases hname

theorem sets_cases {draft next : DescriptionRecord.Draft} {m : Member}
    (h : DescriptionRecord.format.Sets m draft next) :
    (∃ kind, IsKind kind m ∧ draft.kind = none ∧ next = { draft with kind := some kind }) ∨
    (∃ text, IsText text m ∧ draft.text = none ∧ next = { draft with text := some text }) ∨
    (IsOther m ∧ next = draft) := by
  have eq_none_of_isSome {β : Type} {entry : Option β} (h : entry.isSome = false) : entry = none :=
    Option.isNone_iff_eq_none.1 (Option.isSome_eq_false_iff.1 h)
  cases h with
  | @known name field _ change hkey hfield hset hvalue =>
    simp only [DescriptionRecord.format, List.find?_cons, List.find?_nil] at hfield
    split at hfield
    · next hname =>
      cases hfield
      obtain rfl := beq_iff_eq.1 hname
      obtain ⟨kind, hkind, rfl⟩ := hvalue.of_map (Json.variant_isExact _)
      exact .inl ⟨kind, ⟨hkey, kindReader_takes.1 hkind⟩, eq_none_of_isSome hset, rfl⟩
    · split at hfield
      · next hname =>
        cases hfield
        obtain rfl := beq_iff_eq.1 hname
        obtain ⟨text, htext, rfl⟩ := hvalue.of_map Json.text_isExact
        exact .inr (.inl ⟨text, ⟨hkey, Json.text_takes.1 htext⟩, eq_none_of_isSome hset, rfl⟩)
      · cases hfield
  | @unknown name _ hkey hfield hvalue =>
    simp only [DescriptionRecord.format, List.find?_cons, List.find?_nil] at hfield
    split at hfield
    · cases hfield
    · next htype =>
      split at hfield
      · cases hfield
      · next hsdp =>
        exact .inr (.inr ⟨⟨⟨name, hkey, (beq_eq_false_iff_ne.1 htype).symm,
          (beq_eq_false_iff_ne.1 hsdp).symm⟩, hvalue⟩, rfl⟩)

/-- What becomes of an entry of the draft: no member is of its name and it stays, or it was empty
and the one member of its name sets it. -/
inductive Enters {β : Type} (P : β → Member → Prop) : Option β → List Member → Option β → Prop where
  | kept {entry : Option β} : Enters P entry [] entry
  | set {b : β} {m : Member} (h : P b m) : Enters P none [m] (some b)

theorem Enters.cons {β : Type} {P : β → Member → Prop} {b : β} {m : Member} {ms : List Member}
    {last : Option β} (h : P b m) (hms : Enters P (some b) ms last) :
    Enters P none (m :: ms) last := by
  cases hms with
  | kept => exact .set h

theorem fills_cases {draft last : DescriptionRecord.Draft} {ms : List Member}
    (h : DescriptionRecord.format.Fills draft ms last) :
    ∃ kinds texts others, ms.Perm (kinds ++ (texts ++ others)) ∧
      Enters IsKind draft.kind kinds last.kind ∧ Enters IsText draft.text texts last.text ∧
      ∀ m ∈ others, IsOther m := by
  induction h with
  | nil => exact ⟨[], [], [], .nil, .kept, .kept, fun _ hm => nomatch hm⟩
  | @cons draft next last m ms hm _ ih =>
    obtain ⟨kinds, texts, others, hms, hkinds, htexts, hothers⟩ := ih
    rcases sets_cases hm with ⟨kind, hkind, hdraft, rfl⟩ | ⟨text, htext, hdraft, rfl⟩ |
      ⟨hother, rfl⟩
    · exact ⟨m :: kinds, texts, others, hms.cons m, hdraft ▸ hkinds.cons hkind, htexts, hothers⟩
    · exact ⟨kinds, m :: texts, others, (hms.cons m).trans List.perm_middle.symm, hkinds,
        hdraft ▸ htexts.cons htext, hothers⟩
    · refine ⟨kinds, texts, m :: others, ?_, hkinds, htexts,
        List.forall_mem_cons.2 ⟨hother, hothers⟩⟩
      rw [← List.append_assoc] at hms ⊢
      exact (hms.cons m).trans List.perm_middle.symm

theorem finish_eq_ok {draft : DescriptionRecord.Draft} {record : DescriptionRecord} :
    draft.finish = .ok record ↔ draft = ⟨some record.kind, some record.text⟩ := by
  obtain ⟨kind, text⟩ := draft
  obtain ⟨kind', text'⟩ := record
  cases kind <;> cases text <;> simp [DescriptionRecord.Draft.finish]

theorem fills_iff {record : DescriptionRecord} {ms : List Member} :
    DescriptionRecord.format.Fills DescriptionRecord.format.empty ms
      ⟨some record.kind, some record.text⟩ ↔ IsRecordOf record ms := by
  constructor
  · intro h
    obtain ⟨kinds, texts, others, hms, hkinds, htexts, hothers⟩ := fills_cases h
    cases hkinds with
    | set hkind =>
      cases htexts with
      | set htext => exact .mk hms hkind htext hothers
  · rintro ⟨hms, hkind, htext, hothers⟩
    exact fills_of_members hms hkind.key hkind.value htext.key htext.value hothers

/-! ## Objects and arrays -/

theorem fillsInOrder_iff {record : DescriptionRecord} {vs : List (List UInt8)} :
    Json.Record.FillsInOrder DescriptionRecord.format.fields DescriptionRecord.format.empty vs
        ⟨some record.kind, some record.text⟩ ↔
      ∃ kind text, vs = [kind, text] ∧ VariantText record.kind.name kind ∧
        Literal record.text text := by
  constructor
  · intro h
    cases h with
    | cons hv h =>
      obtain ⟨kind, hkind, rfl⟩ := hv.of_map (Json.variant_isExact _)
      cases h with
      | cons hv h =>
        obtain ⟨text, htext, rfl⟩ := hv.of_map Json.text_isExact
        cases h with
        | nil => exact ⟨_, _, rfl, kindReader_takes.1 hkind, Json.text_takes.1 htext⟩
  · rintro ⟨kind, text, rfl, hkind, htext⟩
    exact .cons ((kindReader_takes.2 hkind).map _) (.cons (htext.takes.map _) .nil)

/-- An array makes a record only if both its values are there. -/
theorem finishArray_eq_ok {draft : DescriptionRecord.Draft} {n : Nat}
    {record : DescriptionRecord} :
    DescriptionRecord.format.finishArray draft n = .ok record ↔
      2 ≤ n ∧ draft = ⟨some record.kind, some record.text⟩ := by
  have hlen : DescriptionRecord.format.fields.length = 2 := rfl
  have hstop : DescriptionRecord.format.mayStopEarly = false := rfl
  simp only [Json.Record.finishArray, hlen, hstop, Bool.not_false, and_true]
  split
  · next h => exact ⟨nofun, fun h' => absurd h (Nat.not_lt.2 h'.1)⟩
  · next h => exact finish_eq_ok.trans ⟨fun h' => ⟨Nat.not_lt.1 h, h'⟩, fun h' => h'.2⟩

theorem written_iff {record : DescriptionRecord} {o : List UInt8} :
    DescriptionRecord.format.Written record o ↔
      (∃ ms o', IsRecordOf record ms ∧ (∀ m ∈ ms, m.IsSpaced) ∧
        Listing closeBrace true (ms.map Member.octets) o' ∧ o = openBrace :: o') ∨
      (∃ kind text o', VariantText record.kind.name kind ∧ Literal record.text text ∧
        Listing closeBracket true [kind, text] o' ∧ o = openBracket :: o') := by
  constructor
  · intro h
    cases h with
    | object hms hfills ho ha =>
      obtain rfl := finish_eq_ok.1 ha
      exact .inl ⟨_, _, fills_iff.1 hfills, hms, ho, rfl⟩
    | array hfills ho ha =>
      obtain ⟨-, rfl⟩ := finishArray_eq_ok.1 ha
      obtain ⟨kind, text, rfl, hkind, htext⟩ := fillsInOrder_iff.1 hfills
      exact .inr ⟨kind, text, _, hkind, htext, ho, rfl⟩
  · rintro (⟨ms, o, hms, hspaced, ho, rfl⟩ | ⟨kind, text, o, hkind, htext, ho, rfl⟩)
    · exact .object hspaced (fills_iff.2 hms) ho (finish_eq_ok.2 rfl)
    · exact .array (fillsInOrder_iff.2 ⟨kind, text, rfl, hkind, htext⟩) ho
        (finishArray_eq_ok.2 ⟨Nat.le_refl 2, rfl⟩)

/-- The octets that are read as a record are those that write it. -/
theorem ofJson_eq_ok {record : DescriptionRecord} {json : List UInt8} :
    DescriptionRecord.ofJson json = .ok record ↔ Describes record .base64 json := by
  refine (Json.Record.document_eq_ok format_isExact).trans ⟨?_, fun h => ?_⟩
  · rintro ⟨w, o, w', hw, hwritten, hw', rfl⟩
    rcases written_iff.1 hwritten with ⟨ms, o, hms, hspaced, ho, rfl⟩ |
      ⟨kind, text, o, hkind, htext, ho, rfl⟩
    · exact .object hms (.mk hw hspaced ho hw')
    · exact .array hw hkind htext ho hw'
  · cases h with
    | object hms hjson =>
      obtain ⟨hw, hspaced, ho, hw'⟩ := hjson
      exact ⟨_, _, _, hw, written_iff.2 (.inl ⟨_, _, hms, hspaced, ho, rfl⟩), hw', rfl⟩
    | array hw hkind htext ho hw' =>
      exact ⟨_, _, _, hw, written_iff.2 (.inr ⟨_, _, _, hkind, htext, ho, rfl⟩), hw', rfl⟩

theorem Describes.ne_nil {record : DescriptionRecord} {form : Form} {json : List UInt8}
    (h : Describes record form json) : json ≠ [] := by
  cases h with
  | object _ hjson => exact ne_nil_of_objectText hjson
  | array => exact List.append_ne_nil_of_right_ne_nil _ (List.cons_ne_nil _ _)

/-- A document that begins an object at once writes no array, so its form does not matter. -/
theorem describes_plain_iff {record : DescriptionRecord} {s : List UInt8} :
    Describes record .plain (openBrace :: s) ↔ Describes record .base64 (openBrace :: s) := by
  constructor
  · rintro ⟨hms, hjson⟩
    exact .object hms hjson
  · generalize hs : openBrace :: s = json
    intro h
    cases h with
    | object hms hjson => exact .object hms hjson
    | array hw =>
      obtain rfl := hw.eq_nil_of_cons (by decide) hs
      exact absurd (List.head_eq_of_cons_eq hs) (by decide)

/-! ## Records are documents -/

theorem IsRecordOf.values {record : DescriptionRecord} {ms : List Member}
    (h : IsRecordOf record ms) : ∀ m ∈ ms, LooseLiteral m.key ∧ Value m.value := by
  obtain ⟨hms, hkind, htext, hothers⟩ := h
  intro m hm
  rcases List.mem_cons.1 (hms.mem_iff.1 hm) with rfl | hm
  · exact ⟨hkind.key.loose, hkind.value.value⟩
  · rcases List.mem_cons.1 hm with rfl | hm
    · exact ⟨htext.key.loose, htext.value.value⟩
    · obtain ⟨name, hkey, -, -⟩ := (hothers m hm).key
      exact ⟨hkey.loose, (hothers m hm).value⟩

/-- What writes a record is one whole JSON document. -/
theorem Describes.documentText {record : DescriptionRecord} {form : Form} {json : List UInt8}
    (h : Describes record form json) : DocumentText json := by
  cases h with
  | object hms hjson =>
    obtain ⟨hw, hspaced, ho, hw'⟩ := hjson
    rw [← List.cons_append]
    exact .mk hw (.object (fun m hm => ⟨hspaced m hm, (hms.values m hm).1⟩)
      (fun m hm => (hms.values m hm).2) ho) hw'
  | array hw hkind htext ho hw' =>
    refine .mk hw (.list (List.forall_mem_cons.2 ⟨hkind.value, ?_⟩) ho) hw'
    exact List.forall_mem_cons.2 ⟨htext.value, fun _ hv => nomatch hv⟩

end RtpBridge.Offer
