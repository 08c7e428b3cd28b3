-- SUMMARY: A record reader takes exactly the objects and the arrays that fill its draft.
import RtpBridge.Json.Record
import RtpBridge.Proofs.Json.Reader

/-!
# Records: laws

How members fill a draft is stated apart from the reading (`Record.Fills` for objects,
`FillsInOrder` for arrays). Reading the members of a text then comes to filling the draft
with them, whatever stands behind the record (`Record.readRecord_eq_ok`).
-/

namespace RtpBridge.Json

variable {α β σ : Type}

/-! ## Changed answers -/

theorem Reader.Takes.map {R : Reader α} {o : List UInt8} {a : α} (h : R.Takes o a)
    (f : α → β) : (R.map f).Takes o (f a) where
  begins := h.begins
  read w r hw hr := by simp only [Reader.map, h.read w r hw hr]

theorem Reader.IsExact.map {R : Reader α} (h : R.IsExact) (f : α → β) : (R.map f).IsExact := by
  intro s r b hb
  simp only [Reader.map] at hb
  split at hb
  · cases hb
  · next ha =>
    cases hb
    obtain ⟨w, o, hs, hw, ho⟩ := h s _ _ ha
    exact ⟨w, o, hs, hw, ho.map f⟩

/-- What a changed reader takes, the reader takes as well. -/
theorem Reader.Takes.of_map {R : Reader α} (hR : R.IsExact) {f : α → β} {o : List UInt8} {b : β}
    (h : (R.map f).Takes o b) : ∃ a, R.Takes o a ∧ f a = b := by
  have hread := h.read_self
  simp only [Reader.map] at hread
  split at hread
  · cases hread
  · next a r ha =>
    cases hread
    obtain ⟨w, o', ho, hw, hx⟩ := hR _ _ _ ha
    refine ⟨a, ?_, rfl⟩
    rwa [h.begins.eq_of_blanks hw ho]

namespace Record

/-! ## Keys -/

theorem readKey_append {x : String} {key : List UInt8} (h : Literal x key) (r : List UInt8) :
    ∃ t, key = quotationMark :: t ∧ nextKey.readKey (t ++ r) = .ok (some x, r) := by
  obtain ⟨t, rfl, ht⟩ := h.read
  exact ⟨t, rfl, by simp only [nextKey.readKey, ht]⟩

theorem readKey_eq_ok {s r : List UInt8} {x : Option String}
    (h : nextKey.readKey s = .ok (x, r)) :
    ∃ name key, x = some name ∧ Literal name key ∧ quotationMark :: s = key ++ r := by
  simp only [nextKey.readKey] at h
  split at h
  · cases h
  · next name t ht =>
    cases h
    obtain ⟨key, hkey, hs⟩ := Literal.of_readString ht
    exact ⟨name, key, rfl, hkey, hs⟩

theorem nextKey_close {isFirst : Bool} {w : List UInt8} (hw : Blanks w) (r : List UInt8) :
    nextKey isFirst (w ++ closeBrace :: r) = .ok (none, r) := by
  rw [nextKey, skipBlanks_append_cons hw rfl]
  rfl

theorem nextKey_lead {isFirst : Bool} {l key : List UInt8} {x : String} (hl : Lead isFirst l)
    (hkey : Literal x key) (r : List UInt8) :
    nextKey isFirst (l ++ (key ++ r)) = .ok (some x, r) := by
  have hquote : quotationMark ≠ closeBrace := by decide
  have hcomma : comma ≠ closeBrace := by decide
  obtain ⟨t, rfl, ht⟩ := readKey_append hkey r
  cases hl with
  | first hw =>
    rw [List.cons_append, nextKey, skipBlanks_append_cons hw rfl]
    simp only [hquote, if_false, if_true, ht]
  | next hw hw' =>
    simp only [List.append_assoc, List.cons_append]
    rw [nextKey, skipBlanks_append_cons hw rfl]
    simp only [hcomma, if_false, Bool.false_eq_true, if_true,
      skipBlanks_append_cons hw' (b := quotationMark) rfl, ht]

theorem nextKey_eq_none {isFirst : Bool} {s r : List UInt8}
    (h : nextKey isFirst s = .ok (none, r)) : ∃ w, Blanks w ∧ s = w ++ closeBrace :: r := by
  unfold nextKey at h
  split at h
  · cases h
  · next b t hs =>
    obtain ⟨w, hw, -, rfl⟩ := skipBlanks_eq_cons.1 hs
    split at h
    · next hb =>
      cases h
      exact ⟨w, hw, by rw [hb]⟩
    · have hkey {u : List UInt8} : nextKey.readKey u ≠ .ok (none, r) := by
        intro hu
        obtain ⟨_, _, hx, -⟩ := readKey_eq_ok hu
        cases hx
      split at h
      · split at h
        · exact absurd h hkey
        · cases h
      · split at h
        · split at h
          · cases h
          · split at h
            · exact absurd h hkey
            · split at h <;> cases h
        · cases h

theorem nextKey_eq_some {isFirst : Bool} {s r : List UInt8} {x : String}
    (h : nextKey isFirst s = .ok (some x, r)) :
    ∃ l key, Lead isFirst l ∧ Literal x key ∧ s = l ++ (key ++ r) := by
  unfold nextKey at h
  split at h
  · cases h
  · next b t hs =>
    obtain ⟨w, hw, -, rfl⟩ := skipBlanks_eq_cons.1 hs
    split at h
    · cases h
    · split at h
      · next hfirst =>
        split at h
        · next hb =>
          obtain ⟨name, key, hx, hkey, ht⟩ := readKey_eq_ok h
          cases hx
          rw [hfirst, hb, ht]
          exact ⟨w, key, .first hw, hkey, rfl⟩
        · cases h
      · next hfirst =>
        split at h
        · next hcomma =>
          split at h
          · cases h
          · next c u hu =>
            obtain ⟨w', hw', -, rfl⟩ := skipBlanks_eq_cons.1 hu
            split at h
            · next hc =>
              obtain ⟨name, key, hx, hkey, ht⟩ := readKey_eq_ok h
              cases hx
              rw [Bool.eq_false_iff.2 hfirst, hcomma, hc, ht]
              refine ⟨_, key, .next hw hw', hkey, ?_⟩
              rw [List.append_assoc, List.cons_append]
            · split at h <;> cases h
        · cases h

/-! ## Objects -/

/-- That the member `m` takes the draft from one state to the next. -/
inductive Sets (R : Record σ α) (m : Member) : σ → σ → Prop where
  | known {name : String} {field : Field σ} {draft : σ} {change : σ → σ}
      (hkey : Literal name m.key) (hfield : R.fields.find? (·.name == name) = some field)
      (hset : field.isSet draft = false) (hvalue : field.reader.Takes m.value change) :
      Sets R m draft (change draft)
  | unknown {name : String} {draft : σ} (hkey : Literal name m.key)
      (hfield : R.fields.find? (·.name == name) = none) (hvalue : Value m.value) :
      Sets R m draft draft

/-- That members fill a draft in the order in which they stand. -/
inductive Fills (R : Record σ α) : σ → List Member → σ → Prop where
  | nil {draft : σ} : Fills R draft [] draft
  | cons {draft next last : σ} {m : Member} {ms : List Member} (hm : R.Sets m draft next)
      (h : Fills R next ms last) : Fills R draft (m :: ms) last

theorem Fills.append {R : Record σ α} {draft next last : σ} {ms ns : List Member}
    (h : R.Fills draft ms next) (hn : R.Fills next ns last) : R.Fills draft (ms ++ ns) last := by
  induction h with
  | nil => exact hn
  | cons hm h ih => exact .cons hm (ih hn)

/-- Members that the record does not know leave its draft alone. -/
theorem fills_of_unknown {R : Record σ α} {draft : σ} {ms : List Member}
    (h : ∀ m ∈ ms, ∃ name, Literal name m.key ∧ R.fields.find? (·.name == name) = none ∧
      Value m.value) : R.Fills draft ms draft := by
  induction ms with
  | nil => exact .nil
  | cons m ms ih =>
    obtain ⟨name, hkey, hfield, hvalue⟩ := h m List.mem_cons_self
    exact .cons (.unknown hkey hfield hvalue) (ih fun n hn => h n (List.mem_cons_of_mem m hn))

theorem readMember_append {R : Record σ α} {m : Member} {draft next : σ} {r : List UInt8}
    (h : R.Sets m draft next) (hspaced : m.IsSpaced) (hr : Delimited r) :
    ∃ x, Literal x m.key ∧ R.readMember x draft
      (m.beforeColon ++ colon :: (m.afterColon ++ (m.value ++ r))) = .ok (next, r) := by
  have hcolon : readColon (m.beforeColon ++ colon :: (m.afterColon ++ (m.value ++ r))) =
      .ok (m.afterColon ++ (m.value ++ r)) :=
    readColon_eq_ok.2 ⟨m.beforeColon, hspaced.before, rfl⟩
  cases h with
  | @known name field _ change hkey hfield hset hvalue =>
    refine ⟨name, hkey, ?_⟩
    simp only [readMember, hfield, hset, Bool.false_eq_true, if_false, hcolon,
      hvalue.read _ r hspaced.after hr]
  | @unknown name _ hkey hfield hvalue =>
    refine ⟨name, hkey, ?_⟩
    simp only [readMember, hfield, hcolon, skipValue_append hspaced.after hvalue hr]

theorem readMember_eq_ok {R : Record σ α} (hexact : ∀ field ∈ R.fields, field.reader.IsExact)
    {x : String} {key : List UInt8} {draft next : σ} {s r : List UInt8} (hkey : Literal x key)
    (h : R.readMember x draft s = .ok (next, r)) :
    ∃ m : Member, m.IsSpaced ∧ R.Sets m draft next ∧ key ++ s = m.octets ++ r := by
  unfold readMember at h
  split at h
  · next field hfield =>
    split at h
    · cases h
    · next hset =>
      split at h
      · cases h
      · next t ht =>
        split at h
        · cases h
        · next change u hu =>
          cases h
          obtain ⟨w, hw, rfl⟩ := readColon_eq_ok.1 ht
          obtain ⟨w', v, rfl, hw', hv⟩ := hexact field (List.mem_of_find?_eq_some hfield) _ _ _ hu
          refine ⟨⟨key, w, w', v⟩, ⟨hw, hw'⟩,
            .known hkey hfield (Bool.eq_false_iff.2 hset) hv, ?_⟩
          simp only [Member.octets, List.append_assoc, List.cons_append]
  · next hfield =>
    split at h
    · cases h
    · next t ht =>
      split at h
      · cases h
      · next u hu =>
        cases h
        obtain ⟨w, hw, rfl⟩ := readColon_eq_ok.1 ht
        obtain ⟨w', v, rfl, hw', hv⟩ := exists_of_skipValue hu
        refine ⟨⟨key, w, w', v⟩, ⟨hw, hw'⟩, .unknown hkey hfield hv, ?_⟩
        simp only [Member.octets, List.append_assoc, List.cons_append]

theorem readMembers_append {R : Record σ α} {draft last : σ} {ms : List Member}
    (h : R.Fills draft ms last) (hms : ∀ m ∈ ms, m.IsSpaced) {isFirst : Bool} {o : List UInt8}
    (ho : Listing closeBrace isFirst (ms.map Member.octets) o) (r : List UInt8) :
    R.readMembers isFirst draft (o ++ r) = .ok (last, r) := by
  induction h generalizing isFirst o with
  | nil =>
    cases ho with
    | nil hw =>
      rw [List.append_assoc, List.singleton_append, readMembers]
      split
      · next heq => rw [nextKey_close hw] at heq; cases heq
      · next heq => rw [nextKey_close hw] at heq; cases heq; rfl
      · next heq => rw [nextKey_close hw] at heq; cases heq
  | @cons draft next last m ms hm h ih =>
    cases ho with
    | @cons _ l _ o _ hl ho =>
      have hr : Delimited (o ++ r) := ho.delimited (.inr rfl) r
      obtain ⟨x, hkey, hmember⟩ := readMember_append hm (hms m List.mem_cons_self) hr
      have hnext := nextKey_lead hl hkey
        (m.beforeColon ++ colon :: (m.afterColon ++ (m.value ++ (o ++ r))))
      have ho := ih (fun n hn => hms n (List.mem_cons_of_mem m hn)) ho
      simp only [Member.octets, List.append_assoc, List.cons_append]
      rw [readMembers]
      split
      · next heq => rw [hnext] at heq; cases heq
      · next heq => rw [hnext] at heq; cases heq
      · next heq =>
        rw [hnext] at heq
        cases heq
        split
        · next heq => rw [hmember] at heq; cases heq
        · next heq =>
          rw [hmember] at heq
          cases heq
          exact ho

theorem readMembers_eq_ok {R : Record σ α} (hexact : ∀ field ∈ R.fields, field.reader.IsExact)
    {isFirst : Bool} {draft last : σ} {s r : List UInt8}
    (h : R.readMembers isFirst draft s = .ok (last, r)) :
    ∃ ms o, R.Fills draft ms last ∧ (∀ m ∈ ms, m.IsSpaced) ∧
      Listing closeBrace isFirst (ms.map Member.octets) o ∧ s = o ++ r := by
  fun_induction readMembers R isFirst draft s with
  | case1 => cases h
  | case2 isFirst draft s t ht =>
    cases h
    obtain ⟨w, hw, rfl⟩ := nextKey_eq_none ht
    refine ⟨[], w ++ [closeBrace], .nil, fun m hm => absurd hm List.not_mem_nil, .nil hw, ?_⟩
    rw [List.append_assoc, List.singleton_append]
  | case3 => cases h
  | case4 isFirst draft s x t ht next u hu _ ih =>
    obtain ⟨l, key, hl, hkey, rfl⟩ := nextKey_eq_some ht
    obtain ⟨m, hspaced, hm, heq⟩ := readMember_eq_ok hexact hkey hu
    obtain ⟨ms, o, hfills, hms, ho, rfl⟩ := ih h
    refine ⟨m :: ms, l ++ (m.octets ++ o), .cons hm hfills, fun n hn => ?_, .cons hl ho, ?_⟩
    · rcases List.mem_cons.1 hn with rfl | hn
      · exact hspaced
      · exact hms n hn
    · rw [heq]
      simp only [List.append_assoc]

/-! ## Arrays -/

/-- That values fill a draft in the order of the fields; fields at the end may be left. -/
inductive FillsInOrder : List (Field σ) → σ → List (List UInt8) → σ → Prop where
  | nil {fields : List (Field σ)} {draft : σ} : FillsInOrder fields draft [] draft
  | cons {field : Field σ} {fields : List (Field σ)} {draft last : σ} {change : σ → σ}
      {v : List UInt8} {vs : List (List UInt8)} (hv : field.reader.Takes v change)
      (h : FillsInOrder fields (change draft) vs last) :
      FillsInOrder (field :: fields) draft (v :: vs) last

theorem readArrayEnd_eq_ok {s r : List UInt8} :
    readArrayEnd s = .ok r ↔ ∃ w, Blanks w ∧ s = w ++ closeBracket :: r := by
  constructor
  · intro h
    unfold readArrayEnd at h
    split at h
    · cases h
    · next b t hs =>
      obtain ⟨w, hw, -, rfl⟩ := skipBlanks_eq_cons.1 hs
      split at h
      · next hb =>
        cases h
        exact ⟨w, hw, by rw [hb]⟩
      · split at h
        · split at h <;> cases h
        · cases h
  · rintro ⟨w, hw, rfl⟩
    rw [readArrayEnd, skipBlanks_append_cons hw rfl]
    rfl

theorem readPositions_append {fields : List (Field σ)} {draft last : σ}
    {vs : List (List UInt8)} (h : FillsInOrder fields draft vs last) (read : Nat)
    {o : List UInt8} (ho : Listing closeBracket (read == 0) vs o) (r : List UInt8) :
    readPositions fields read draft (o ++ r) = .ok ((last, read + vs.length), r) := by
  induction h generalizing read o with
  | @nil fields draft =>
    cases ho with
    | nil hw =>
      rw [List.append_assoc, List.singleton_append]
      cases fields with
      | nil =>
        simp only [readPositions, readArrayEnd_eq_ok.2 ⟨_, hw, rfl⟩, List.length_nil,
          Nat.add_zero]
      | cons field fields =>
        simp only [readPositions, nextElement_close hw, List.length_nil, Nat.add_zero]
  | @cons field fields draft last change v vs hv h ih =>
    cases ho with
    | @cons _ l _ o _ hl ho =>
      have hr : Delimited (o ++ r) := ho.delimited (.inl rfl) r
      have hread : field.reader.read (v ++ (o ++ r)) = .ok (change, o ++ r) :=
        hv.read [] _ blanks_nil hr
      have hlen : read + (v :: vs).length = read + 1 + vs.length := by
        rw [List.length_cons]
        omega
      rw [hlen, ← ih (read + 1) ho]
      simp only [List.append_assoc, readPositions, nextElement_lead hl hv.begins, hread]

theorem readPositions_eq_ok {fields : List (Field σ)}
    (hexact : ∀ field ∈ fields, field.reader.IsExact) {draft last : σ} {read count : Nat}
    {s r : List UInt8} (h : readPositions fields read draft s = .ok ((last, count), r)) :
    ∃ vs o, FillsInOrder fields draft vs last ∧ Listing closeBracket (read == 0) vs o ∧
      count = read + vs.length ∧ s = o ++ r := by
  induction fields generalizing draft read s with
  | nil =>
    simp only [readPositions] at h
    split at h
    · cases h
    · next ht =>
      cases h
      obtain ⟨w, hw, rfl⟩ := readArrayEnd_eq_ok.1 ht
      refine ⟨[], w ++ [closeBracket], .nil, .nil hw, rfl, ?_⟩
      rw [List.append_assoc, List.singleton_append]
  | cons field fields ih =>
    simp only [readPositions] at h
    split at h
    · cases h
    · next ht =>
      cases h
      obtain ⟨w, hw, rfl⟩ := nextElement_eq_false ht
      refine ⟨[], w ++ [closeBracket], .nil, .nil hw, rfl, ?_⟩
      rw [List.append_assoc, List.singleton_append]
    · next t ht =>
      split at h
      · cases h
      · next change u hu =>
        obtain ⟨l, b, t', hl, rfl, rfl, hb⟩ := nextElement_eq_true ht
        obtain ⟨w, v, heq, hw, hv⟩ := hexact field List.mem_cons_self _ _ _ hu
        obtain ⟨vs, o, hfills, ho, hcount, rfl⟩ :=
          ih (fun f hf => hexact f (List.mem_cons_of_mem field hf)) h
        refine ⟨v :: vs, l ++ (v ++ o), .cons hv hfills, .cons hl ho, ?_, ?_⟩
        · rw [hcount, List.length_cons]
          omega
        · obtain rfl := hw.eq_nil_of_cons hb heq
          rw [heq]
          simp only [List.append_assoc, List.nil_append]

/-! ## Either form -/

/-- That `o` writes the record `a`. -/
inductive Written (R : Record σ α) (a : α) : List UInt8 → Prop where
  | object {ms : List Member} {draft : σ} {o : List UInt8} (hms : ∀ m ∈ ms, m.IsSpaced)
      (hfills : R.Fills R.empty ms draft)
      (ho : Listing closeBrace true (ms.map Member.octets) o) (ha : R.finish draft = .ok a) :
      Written R a (openBrace :: o)
  | array {vs : List (List UInt8)} {draft : σ} {o : List UInt8}
      (hfills : FillsInOrder R.fields R.empty vs draft) (ho : Listing closeBracket true vs o)
      (ha : R.finishArray draft vs.length = .ok a) : Written R a (openBracket :: o)

theorem readRecord_append {R : Record σ α} {a : α} {w o : List UInt8} (hw : Blanks w)
    (h : R.Written a o) (r : List UInt8) : R.readRecord (w ++ (o ++ r)) = .ok (a, r) := by
  cases h with
  | object hms hfills ho ha =>
    have hbrace : openBrace ≠ openBracket := by decide
    rw [List.cons_append, readRecord, skipBlanks_append_cons hw rfl]
    simp only [hbrace, if_false, if_true, readMembers_append hfills hms ho r, ha]
  | array hfills ho ha =>
    have hread := readPositions_append hfills 0 ho r
    rw [Nat.zero_add] at hread
    rw [List.cons_append, readRecord, skipBlanks_append_cons hw rfl]
    simp only [if_true, hread, ha]

theorem Written.takes {R : Record σ α} {a : α} {o : List UInt8} (h : R.Written a o) :
    R.reader.Takes o a where
  begins := by
    cases h with
    | object => exact ⟨_, _, rfl, rfl, by decide, by decide⟩
    | array => exact ⟨_, _, rfl, rfl, by decide, by decide⟩
  read w r hw _ := readRecord_append hw h r

/-- A record is read off the front just when its text stands there, whatever follows. -/
theorem readRecord_eq_ok {R : Record σ α} (hexact : ∀ field ∈ R.fields, field.reader.IsExact)
    {a : α} {s r : List UInt8} :
    R.readRecord s = .ok (a, r) ↔ ∃ w o, Blanks w ∧ R.Written a o ∧ s = w ++ (o ++ r) := by
  constructor
  · intro h
    unfold readRecord at h
    split at h
    · cases h
    · next b t hs =>
      obtain ⟨w, hw, -, rfl⟩ := skipBlanks_eq_cons.1 hs
      split at h
      · next hb =>
        split at h
        · cases h
        · next draft read t' ht =>
          split at h
          · cases h
          · next ha =>
            cases h
            obtain ⟨vs, o, hfills, ho, hread, rfl⟩ := readPositions_eq_ok hexact ht
            rw [hread, Nat.zero_add] at ha
            exact ⟨w, _, hw, .array hfills ho ha, by rw [hb, List.cons_append]⟩
      · split at h
        · next hb =>
          split at h
          · cases h
          · next draft t' ht =>
            split at h
            · cases h
            · next ha =>
              cases h
              obtain ⟨ms, o, hfills, hms, ho, rfl⟩ := readMembers_eq_ok hexact ht
              exact ⟨w, _, hw, .object hms hfills ho ha, by rw [hb, List.cons_append]⟩
        · cases h
  · rintro ⟨w, o, hw, ho, rfl⟩
    exact readRecord_append hw ho r

theorem reader_isExact {R : Record σ α} (hexact : ∀ field ∈ R.fields, field.reader.IsExact) :
    R.reader.IsExact := by
  intro s r a h
  obtain ⟨w, o, hw, ho, hs⟩ := (readRecord_eq_ok hexact).1 h
  exact ⟨w, o, hs, hw, ho.takes⟩

theorem document_eq_ok {R : Record σ α} (hexact : ∀ field ∈ R.fields, field.reader.IsExact)
    {a : α} {s : List UInt8} :
    R.reader.document s = .ok a ↔
      ∃ w o w', Blanks w ∧ R.Written a o ∧ Blanks w' ∧ s = w ++ (o ++ w') := by
  constructor
  · intro h
    simp only [Reader.document] at h
    split at h
    · cases h
    · next a' r hr =>
      split at h
      · next hblank =>
        cases h
        obtain ⟨w, o, hw, ho, rfl⟩ := (readRecord_eq_ok hexact).1 hr
        exact ⟨w, o, r, hw, ho, skipBlanks_eq_nil.1 (List.isEmpty_iff.1 hblank), rfl⟩
      · cases h
  · rintro ⟨w, o, w', hw, ho, hw', rfl⟩
    exact ho.takes.document hw hw'

/-- Two documents of which one begins with the other hold the same record. -/
theorem document_eq_of_isPrefix {R : Record σ α}
    (hexact : ∀ field ∈ R.fields, field.reader.IsExact) {a b : α} {p s : List UInt8}
    (hp : p <+: s) (ha : R.reader.document p = .ok a) (hb : R.reader.document s = .ok b) :
    a = b := by
  obtain ⟨t, rfl⟩ := hp
  obtain ⟨w, o, w', hw, ho, -, rfl⟩ := (document_eq_ok hexact).1 ha
  have hread : R.reader.read (w ++ (o ++ w') ++ t) = .ok (a, w' ++ t) := by
    rw [List.append_assoc, List.append_assoc]
    exact readRecord_append hw ho (w' ++ t)
  simp only [Reader.document, hread] at hb
  split at hb
  · cases hb
    rfl
  · cases hb

end Record

end RtpBridge.Json
