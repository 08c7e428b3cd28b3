-- SUMMARY: Skipping a value takes exactly one value of the grammar, at any depth of nesting.
import RtpBridge.Proofs.Json.String

/-!
# Skipping: laws

The walk goes by spots and a stack of frames, the grammar by the shape of a value.
`Spot.Completes` says what the text still owes at a spot. One step of the walk takes
what leads from one debt to the next, hence a whole walk takes a value
(`Spot.exists_of_walk`). The other way round the walk gets past every value of the
grammar and leaves its frames as they were (`Value.walk`).
-/

namespace RtpBridge.Json

/-! ## Scalars -/

theorem ne_of_isDigit {d b : UInt8} (hd : isDigit d) (hb : isDigit b = false) : d ≠ b := by
  rintro rfl
  rw [hb] at hd
  cases hd

theorem isBlank_of_isDigit {d : UInt8} (hd : isDigit d) : isBlank d = false := by
  simp only [isBlank, Bool.or_eq_false_iff, beq_eq_false_iff_ne]
  exact ⟨⟨⟨ne_of_isDigit hd rfl, ne_of_isDigit hd rfl⟩, ne_of_isDigit hd rfl⟩,
    ne_of_isDigit hd rfl⟩

/-- How the octets of a value begin, so that they are told from a blank and from an end. -/
def Begins (o : List UInt8) : Prop :=
  ∃ b t, o = b :: t ∧ isBlank b = false ∧ b ≠ closeBracket ∧ b ≠ closeBrace

theorem skipScalar_append {o r : List UInt8} (h : Scalar o) (hr : Delimited r) :
    ∃ b t, o = b :: t ∧ b ≠ openBracket ∧ b ≠ openBrace ∧ skipScalar b (t ++ r) = .ok r := by
  cases h with
  | null => exact ⟨_, _, rfl, by decide, by decide, readWord_eq_ok.2 rfl⟩
  | true => exact ⟨_, _, rfl, by decide, by decide, readWord_eq_ok.2 rfl⟩
  | false => exact ⟨_, _, rfl, by decide, by decide, readWord_eq_ok.2 rfl⟩
  | string h =>
    obtain ⟨t, rfl, ht⟩ := h.skip
    exact ⟨_, t, rfl, by decide, by decide, ht r⟩
  | negative h => exact ⟨_, _, rfl, by decide, by decide, skipNumeral_append h hr⟩
  | natural h =>
    have hskip := skipNumeral_append h hr
    obtain ⟨d, t, rfl, hd⟩ := h.head
    refine ⟨d, t, rfl, ne_of_isDigit hd rfl, ne_of_isDigit hd rfl, ?_⟩
    rw [skipScalar, if_neg (ne_of_isDigit hd rfl), if_neg (ne_of_isDigit hd rfl),
      if_neg (ne_of_isDigit hd rfl), if_neg (ne_of_isDigit hd rfl),
      if_neg (ne_of_isDigit hd rfl), if_pos hd]
    exact hskip

theorem skipScalar_eq_ok {b : UInt8} {s r : List UInt8} (h : skipScalar b s = .ok r) :
    ∃ o, Scalar o ∧ b :: s = o ++ r := by
  simp only [skipScalar] at h
  split at h
  · next hb =>
    rw [hb, readWord_eq_ok.1 h]
    exact ⟨_, .null, rfl⟩
  · split at h
    · next hb =>
      rw [hb, readWord_eq_ok.1 h]
      exact ⟨_, .true, rfl⟩
    · split at h
      · next hb =>
        rw [hb, readWord_eq_ok.1 h]
        exact ⟨_, .false, rfl⟩
      · split at h
        · next hb =>
          obtain ⟨o, ho, hs⟩ := LooseLiteral.of_skipString h
          exact ⟨o, .string ho, by rw [hb, hs]⟩
        · split at h
          · next hb =>
            obtain ⟨n, o, rfl, ho⟩ := skipNumeral_eq_ok h
            exact ⟨_, .negative ho, by rw [hb, List.cons_append]⟩
          · split at h
            · obtain ⟨n, o, hs, ho⟩ := skipNumeral_eq_ok h
              exact ⟨o, .natural ho, hs⟩
            · cases h

theorem Scalar.begins {o : List UInt8} (h : Scalar o) : Begins o := by
  cases h with
  | null => exact ⟨_, _, rfl, rfl, by decide, by decide⟩
  | true => exact ⟨_, _, rfl, rfl, by decide, by decide⟩
  | false => exact ⟨_, _, rfl, rfl, by decide, by decide⟩
  | string h =>
    cases h
    exact ⟨_, _, rfl, rfl, by decide, by decide⟩
  | negative h => exact ⟨_, _, rfl, rfl, by decide, by decide⟩
  | natural h =>
    obtain ⟨d, t, rfl, hd⟩ := h.head
    exact ⟨d, t, rfl, isBlank_of_isDigit hd, ne_of_isDigit hd rfl, ne_of_isDigit hd rfl⟩

theorem Value.begins {o : List UInt8} (h : Value o) : Begins o := by
  cases h with
  | scalar h => exact h.begins
  | list hvs ho => exact ⟨_, _, rfl, rfl, by decide, by decide⟩
  | object hkeys hvalues ho => exact ⟨_, _, rfl, rfl, by decide, by decide⟩

/-! ## Items of a frame -/

def Frame.opener : Frame → UInt8
  | .list => openBracket
  | .object => openBrace

/-- An item of a list is a value, one of an object a member. -/
def Frame.Item (P : List UInt8 → Prop) : Frame → List UInt8 → Prop
  | .list, o => P o
  | .object, o => ∃ m : Member, m.IsSpaced ∧ LooseLiteral m.key ∧ P m.value ∧ o = m.octets

theorem Listing.delimited {close : UInt8} {items : List (List UInt8)} {o : List UInt8}
    (hclose : close = closeBracket ∨ close = closeBrace) (h : Listing close false items o)
    (r : List UInt8) : Delimited (o ++ r) := by
  cases h with
  | nil hw =>
    rw [List.append_assoc]
    refine hw.delimited_append fun b hb => ?_
    cases hb
    exact .inr (.inr hclose)
  | cons hl h =>
    cases hl with
    | next hw hw' =>
      simp only [List.append_assoc, List.cons_append]
      refine hw.delimited_append fun b hb => ?_
      cases hb
      exact .inr (.inl rfl)

theorem Listing.exists_concat {close : UInt8} {isFirst : Bool} {items : List (List UInt8)}
    {o : List UInt8} (h : Listing close isFirst items o) : ∃ p, o = p ++ [close] := by
  induction h with
  | nil hw => exact ⟨_, rfl⟩
  | cons hl h ih =>
    obtain ⟨p, rfl⟩ := ih
    exact ⟨_, by rw [← List.append_assoc, ← List.append_assoc]⟩

theorem Frame.closer_eq (f : Frame) : f.closer = closeBracket ∨ f.closer = closeBrace := by
  cases f with
  | list => exact .inl rfl
  | object => exact .inr rfl

theorem Frame.isBlank_closer (f : Frame) : isBlank f.closer = false := by
  cases f <;> rfl

theorem Frame.comma_ne_closer (f : Frame) : comma ≠ f.closer := by
  cases f <;> decide

theorem Frame.Item.begins {P : List UInt8 → Prop} {f : Frame} {i : List UInt8}
    (hP : ∀ v, P v → Begins v) (h : f.Item P i) : Begins i := by
  cases f with
  | list => exact hP i h
  | object =>
    obtain ⟨m, -, hkey, -, rfl⟩ := h
    obtain ⟨t, hm, -⟩ := hkey.skip
    have hi : m.octets = quotationMark ::
        (t ++ (m.beforeColon ++ colon :: (m.afterColon ++ m.value))) := by
      rw [Member.octets, hm, List.cons_append]
    exact ⟨_, _, hi, rfl, by decide, by decide⟩

/-- Before the value of an item the walk passes its key, if the frame has keys. -/
theorem skipToValue_append {P : List UInt8 → Prop} {f : Frame} {w i : List UInt8}
    (hw : Blanks w) (h : f.Item P i) (r : List UInt8) :
    ∃ w' v, Blanks w' ∧ P v ∧ skipToValue f (w ++ (i ++ r)) = .ok (w' ++ (v ++ r)) := by
  cases f with
  | list => exact ⟨w, i, hw, h, rfl⟩
  | object =>
    obtain ⟨m, hspaced, hkey, hvalue, rfl⟩ := h
    refine ⟨m.afterColon, m.value, hspaced.after, hvalue, ?_⟩
    obtain ⟨t, hm, ht⟩ := hkey.skip
    have hskip : skipBlanks (w ++ quotationMark :: (t ++ (m.beforeColon ++
        colon :: (m.afterColon ++ (m.value ++ r))))) = _ := skipBlanks_append_cons hw rfl _
    simp only [Member.octets, hm, List.append_assoc, List.cons_append]
    simp only [skipToValue, skipKey, hskip, if_true, ht]
    exact readColon_eq_ok.2 ⟨m.beforeColon, hspaced.before, rfl⟩

/-! ## Past a value -/

theorem Spot.walk_of_step {spot next : Spot} {s r : List UInt8}
    (h : spot.step s = .ok (some next, r)) : spot.walk s = next.walk r := by
  rw [Spot.walk]
  split
  · next heq => rw [h] at heq; cases heq
  · next heq => rw [h] at heq; cases heq
  · next heq =>
    rw [h] at heq
    cases heq
    rfl

/-- That the walk gets past `o` where a value is due. -/
def Passes (o : List UInt8) : Prop :=
  ∀ (w : List UInt8) (frames : List Frame) (r : List UInt8), Blanks w → Delimited r →
    (Spot.before frames).walk (w ++ (o ++ r)) = (Spot.after frames).walk r

/-- The spot at which a listing of `f` begins. -/
def Spot.atListing (f : Frame) (frames : List Frame) : Bool → Spot
  | true => .inside f frames
  | false => .after (f :: frames)

theorem Spot.step_closer {f : Frame} {frames : List Frame} {isFirst : Bool} {w : List UInt8}
    (hw : Blanks w) (r : List UInt8) :
    (Spot.atListing f frames isFirst).step (w ++ f.closer :: r) =
      .ok (some (.after frames), r) := by
  cases isFirst <;>
    simp only [Spot.atListing, Spot.step, skipBlanks_append_cons hw f.isBlank_closer, if_true]

theorem Spot.walk_item {P : List UInt8 → Prop} {f : Frame} {frames : List Frame}
    {w i r : List UInt8} (hP : ∀ v, P v → Passes v) (hw : Blanks w) (hi : f.Item P i)
    (hr : Delimited r) {s : List UInt8} {spot : Spot}
    (hstep : ∀ t, skipToValue f (w ++ (i ++ r)) = .ok t →
      spot.step s = .ok (some (.before (f :: frames)), t)) :
    spot.walk s = (Spot.after (f :: frames)).walk r := by
  obtain ⟨w', v, hw', hv, hskip⟩ := skipToValue_append hw hi r
  rw [Spot.walk_of_step (hstep _ hskip)]
  exact hP v hv w' (f :: frames) r hw' hr

theorem Listing.walk {P : List UInt8 → Prop} {f : Frame} {isFirst : Bool}
    {items : List (List UInt8)} {o : List UInt8} (hP : ∀ v, P v → Passes v)
    (hbegins : ∀ v, P v → Begins v) (h : Listing f.closer isFirst items o)
    (hitems : ∀ i ∈ items, f.Item P i) (frames : List Frame) (r : List UInt8) :
    (Spot.atListing f frames isFirst).walk (o ++ r) = (Spot.after frames).walk r := by
  induction h with
  | nil hw =>
    rw [List.append_assoc, List.singleton_append]
    exact Spot.walk_of_step (Spot.step_closer hw r)
  | @cons isFirst l item o items hl h ih =>
    have hi := hitems item List.mem_cons_self
    have hr := h.delimited f.closer_eq r
    rw [← ih fun i hi => hitems i (List.mem_cons_of_mem item hi)]
    cases hl with
    | first hw =>
      refine Spot.walk_item hP blanks_nil hi hr fun t ht => ?_
      obtain ⟨b, u, rfl, hb, hbracket, hbrace⟩ := hi.begins hbegins
      have hne : b ≠ f.closer := by
        rcases f.closer_eq with hf | hf <;> rw [hf] <;> assumption
      simp only [List.append_assoc, List.cons_append, List.nil_append] at ht ⊢
      simp only [Spot.atListing, Spot.step, skipBlanks_append_cons hw hb, hne, if_false, ht]
    | next hw hw' =>
      refine Spot.walk_item hP hw' hi hr fun t ht => ?_
      have hcomma : isBlank comma = false := rfl
      simp only [List.append_assoc, List.cons_append] at ht ⊢
      simp only [Spot.atListing, Spot.step, skipBlanks_append_cons hw hcomma,
        f.comma_ne_closer, if_false, if_true, ht]

/-- A listing behind its opening is passed if the values in it are. -/
theorem Listing.passes {f : Frame} {items : List (List UInt8)} {o : List UInt8}
    (h : Listing f.closer true items o)
    (hitems : ∀ i ∈ items, f.Item (fun v => Value v ∧ Passes v) i) :
    Passes (f.opener :: o) := by
  intro w frames r hw hr
  have hstep : (Spot.before frames).step (w ++ (f.opener :: (o ++ r))) =
      .ok (some (Spot.atListing f frames true), o ++ r) := by
    cases f with
    | list => rw [Spot.step, skipBlanks_append_cons hw rfl]; rfl
    | object => rw [Spot.step, skipBlanks_append_cons hw rfl]; rfl
  rw [List.cons_append, Spot.walk_of_step hstep]
  exact h.walk (fun v hv => hv.2) (fun v hv => hv.1.begins) hitems frames r

/-- The walk gets past a value, whatever frames are open around it. -/
theorem Value.walk {o : List UInt8} (h : Value o) : Passes o := by
  induction h with
  | scalar h =>
    intro w frames r hw hr
    obtain ⟨b, t, rfl, hbracket, hbrace, hskip⟩ := skipScalar_append h hr
    obtain ⟨b', t', heq, hb, -⟩ := h.begins
    cases heq
    refine Spot.walk_of_step ?_
    rw [List.cons_append]
    simp only [Spot.step, skipBlanks_append_cons hw hb, hbracket, hbrace, if_false, hskip]
  | list hvs ho ih => exact Listing.passes (f := .list) ho fun i hi => ⟨hvs i hi, ih i hi⟩
  | object hkeys hvalues ho ih =>
    refine Listing.passes (f := .object) ho fun i hi => ?_
    obtain ⟨m, hm, rfl⟩ := List.mem_map.1 hi
    exact ⟨m, (hkeys m hm).1, (hkeys m hm).2, ⟨hvalues m hm, ih m hm⟩, rfl⟩

theorem skipValue_append {w o r : List UInt8} (hw : Blanks w) (ho : Value o)
    (hr : Delimited r) : skipValue (w ++ (o ++ r)) = .ok r := by
  rw [skipValue, ho.walk w [] r hw hr, Spot.walk]
  rfl

/-! ## What the walk takes -/

/-- What ends the open frames. -/
def Closes : List Frame → List UInt8 → Prop
  | [], o => o = []
  | f :: frames, o => ∃ items t u, (∀ i ∈ items, f.Item Value i) ∧
      Listing f.closer false items t ∧ Closes frames u ∧ o = t ++ u

/-- What the text owes at a spot. -/
def Spot.Completes : Spot → List UInt8 → Prop
  | .before frames, o => ∃ w v t, Blanks w ∧ Value v ∧ Closes frames t ∧ o = w ++ (v ++ t)
  | .inside f frames, o => ∃ items t u, (∀ i ∈ items, f.Item Value i) ∧
      Listing f.closer true items t ∧ Closes frames u ∧ o = t ++ u
  | .after frames, o => Closes frames o

theorem skipToValue_eq_ok {f : Frame} {s r : List UInt8} (h : skipToValue f s = .ok r) :
    ∃ k, s = k ++ r ∧ ∀ w v, Blanks w → Value v →
      ∃ w' i, Blanks w' ∧ f.Item Value i ∧ k ++ (w ++ v) = w' ++ i := by
  cases f with
  | list =>
    cases h
    exact ⟨[], rfl, fun w v hw hv => ⟨w, v, hw, hv, rfl⟩⟩
  | object =>
    simp only [skipToValue, skipKey] at h
    split at h
    · cases h
    · next b t hs =>
      split at h
      · next hb =>
        split at h
        · cases h
        · next u hu =>
          obtain ⟨w₀, hw₀, -, rfl⟩ := skipBlanks_eq_cons.1 hs
          obtain ⟨key, hkey, hk⟩ := LooseLiteral.of_skipString hu
          obtain ⟨w₁, hw₁, rfl⟩ := readColon_eq_ok.1 h
          refine ⟨w₀ ++ (key ++ (w₁ ++ [colon])), ?_, fun w v hw hv =>
            ⟨w₀, _, hw₀, ⟨⟨key, w₁, w, v⟩, ⟨hw₁, hw⟩, hkey, hv, rfl⟩, ?_⟩⟩
          · rw [hb, hk]
            simp only [List.append_assoc, List.singleton_append]
          · simp only [Member.octets, List.append_assoc, List.singleton_append]
      · cases h

theorem exists_members {items : List (List UInt8)} (h : ∀ i ∈ items, Frame.object.Item Value i) :
    ∃ ms : List Member, items = ms.map Member.octets ∧
      ∀ m ∈ ms, (m.IsSpaced ∧ LooseLiteral m.key) ∧ Value m.value := by
  induction items with
  | nil => exact ⟨[], rfl, fun m hm => absurd hm List.not_mem_nil⟩
  | cons i items ih =>
    obtain ⟨ms, rfl, hms⟩ := ih fun j hj => h j (List.mem_cons_of_mem i hj)
    obtain ⟨m, hspaced, hkey, hvalue, rfl⟩ := h i List.mem_cons_self
    refine ⟨m :: ms, rfl, fun n hn => ?_⟩
    rcases List.mem_cons.1 hn with rfl | hn
    · exact ⟨⟨hspaced, hkey⟩, hvalue⟩
    · exact hms n hn

theorem Value.of_items {f : Frame} {items : List (List UInt8)} {o : List UInt8}
    (hitems : ∀ i ∈ items, f.Item Value i) (ho : Listing f.closer true items o) :
    Value (f.opener :: o) := by
  cases f with
  | list => exact .list hitems ho
  | object =>
    obtain ⟨ms, rfl, hms⟩ := exists_members hitems
    exact .object (fun m hm => (hms m hm).1) (fun m hm => (hms m hm).2) ho

/-- Going into a frame leaves a value to be completed around it. -/
theorem Spot.Completes.enter {f : Frame} {frames : List Frame} {w o : List UInt8}
    (hw : Blanks w) (h : (Spot.inside f frames).Completes o) :
    (Spot.before frames).Completes (w ++ [f.opener] ++ o) := by
  obtain ⟨items, t, u, hitems, ht, hu, rfl⟩ := h
  refine ⟨w, f.opener :: t, u, hw, .of_items hitems ht, hu, ?_⟩
  rw [List.append_assoc, List.singleton_append, List.cons_append]

/-- The end of a frame completes a listing without further items. -/
theorem Spot.Completes.close {f : Frame} {frames : List Frame} (isFirst : Bool)
    {w o : List UInt8} (hw : Blanks w) (h : Closes frames o) :
    (Spot.atListing f frames isFirst).Completes (w ++ [f.closer] ++ o) := by
  have hnone : ∀ i ∈ [], f.Item Value i := fun i hi => absurd hi List.not_mem_nil
  cases isFirst with
  | false => exact ⟨[], w ++ [f.closer], o, hnone, .nil hw, h, rfl⟩
  | true => exact ⟨[], w ++ [f.closer], o, hnone, .nil hw, h, rfl⟩

/-- An item and what ends its frame complete the listing that the item stands in. -/
theorem Spot.Completes.item {f : Frame} {frames : List Frame} {k o : List UInt8}
    (hk : ∀ w v, Blanks w → Value v →
      ∃ w' i, Blanks w' ∧ f.Item Value i ∧ k ++ (w ++ v) = w' ++ i)
    (h : (Spot.before (f :: frames)).Completes o) :
    ∃ w i items t u, Blanks w ∧ (∀ j ∈ i :: items, f.Item Value j) ∧
      Listing f.closer false items t ∧ Closes frames u ∧ k ++ o = w ++ (i ++ (t ++ u)) := by
  obtain ⟨w, v, _, hw, hv, ⟨items, t, u, hitems, ht, hu, rfl⟩, rfl⟩ := h
  obtain ⟨w', i, hw', hi, heq⟩ := hk w v hw hv
  refine ⟨w', i, items, t, u, hw', fun j hj => ?_, ht, hu, ?_⟩
  · rcases List.mem_cons.1 hj with rfl | hj
    · exact hi
    · exact hitems j hj
  · rw [← List.append_assoc w v, ← List.append_assoc k, heq, List.append_assoc]

/-- What one step takes turns the next spot's debt into this spot's. -/
theorem Spot.exists_of_step {spot next : Spot} {s r : List UInt8}
    (h : spot.step s = .ok (some next, r)) :
    ∃ p, s = p ++ r ∧ ∀ o, next.Completes o → spot.Completes (p ++ o) := by
  cases spot with
  | before frames =>
    simp only [Spot.step] at h
    split at h
    · cases h
    · next b t hs =>
      obtain ⟨w, hw, -, rfl⟩ := skipBlanks_eq_cons.1 hs
      split at h
      · next hb =>
        cases h
        exact ⟨w ++ [openBracket], by rw [hb, List.append_cons], fun o ho => ho.enter hw⟩
      · split at h
        · next hb =>
          cases h
          exact ⟨w ++ [openBrace], by rw [hb, List.append_cons], fun o ho => ho.enter hw⟩
        · split at h
          · cases h
          · next hskip =>
            cases h
            obtain ⟨v, hv, hs⟩ := skipScalar_eq_ok hskip
            refine ⟨w ++ v, by rw [hs, List.append_assoc], fun o ho => ?_⟩
            exact ⟨w, v, o, hw, .scalar hv, ho, List.append_assoc w v o⟩
  | inside f frames =>
    simp only [Spot.step] at h
    split at h
    · cases h
    · next b t hs =>
      obtain ⟨w, hw, -, rfl⟩ := skipBlanks_eq_cons.1 hs
      split at h
      · next hb =>
        cases h
        exact ⟨w ++ [f.closer], by rw [hb, List.append_cons],
          fun o ho => Spot.Completes.close true hw ho⟩
      · split at h
        · cases h
        · next hskip =>
          cases h
          obtain ⟨k, hs, hk⟩ := skipToValue_eq_ok hskip
          refine ⟨w ++ k, by rw [hs, List.append_assoc], fun o ho => ?_⟩
          obtain ⟨w', i, items, t', u, hw', hitems, ht, hu, heq⟩ := ho.item hk
          refine ⟨i :: items, (w ++ w') ++ (i ++ t'), u, hitems, .cons (.first (hw.append hw')) ht,
            hu, ?_⟩
          rw [List.append_assoc, heq]
          simp only [List.append_assoc]
  | after frames =>
    cases frames with
    | nil => cases h
    | cons f frames =>
      simp only [Spot.step] at h
      split at h
      · cases h
      · next b t hs =>
        obtain ⟨w, hw, -, rfl⟩ := skipBlanks_eq_cons.1 hs
        split at h
        · next hb =>
          cases h
          exact ⟨w ++ [f.closer], by rw [hb, List.append_cons],
            fun o ho => Spot.Completes.close false hw ho⟩
        · split at h
          · next hb =>
            split at h
            · cases h
            · next hskip =>
              cases h
              obtain ⟨k, hs, hk⟩ := skipToValue_eq_ok hskip
              refine ⟨w ++ b :: k, by rw [hs, List.append_assoc, List.cons_append],
                fun o ho => ?_⟩
              obtain ⟨w', i, items, t', u, hw', hitems, ht, hu, heq⟩ := ho.item hk
              refine ⟨i :: items, (w ++ comma :: w') ++ (i ++ t'), u, hitems,
                .cons (.next hw hw') ht, hu, ?_⟩
              rw [List.append_assoc, List.cons_append, heq, hb]
              simp only [List.append_assoc, List.cons_append]
          · cases h

theorem Spot.step_none {spot : Spot} {s r : List UInt8} (h : spot.step s = .ok (none, r)) :
    spot = .after [] ∧ r = s := by
  unfold Spot.step at h
  grind

theorem Spot.exists_of_walk {spot : Spot} {s r : List UInt8} (h : spot.walk s = .ok r) :
    ∃ o, s = o ++ r ∧ spot.Completes o := by
  fun_induction Spot.walk spot s with
  | case1 => cases h
  | case2 spot s t ht =>
    cases h
    obtain ⟨rfl, rfl⟩ := Spot.step_none ht
    exact ⟨[], rfl, rfl⟩
  | case3 spot s next t ht _ ih =>
    obtain ⟨p, rfl, hp⟩ := Spot.exists_of_step ht
    obtain ⟨o, rfl, ho⟩ := ih h
    exact ⟨p ++ o, (List.append_assoc p o r).symm, hp o ho⟩

theorem exists_of_skipValue {s r : List UInt8} (h : skipValue s = .ok r) :
    ∃ w o, s = w ++ (o ++ r) ∧ Blanks w ∧ Value o := by
  obtain ⟨o, rfl, w, v, t, hw, hv, rfl, rfl⟩ := Spot.exists_of_walk h
  refine ⟨w, v, ?_, hw, hv⟩
  rw [List.append_nil, List.append_assoc]

/-- A value on its own is known by skipping it. -/
theorem Value.of_skipValue {o : List UInt8} (hb : o.head?.any isBlank = false)
    (h : skipValue o = .ok []) : Value o := by
  obtain ⟨w, v, heq, hw, hv⟩ := exists_of_skipValue h
  cases w with
  | nil =>
    rw [heq, List.nil_append, List.append_nil]
    exact hv
  | cons c w =>
    have hc : isBlank c = true := hw c List.mem_cons_self
    rw [heq, List.cons_append, List.head?_cons, Option.any_some, hc] at hb
    cases hb

end RtpBridge.Json
