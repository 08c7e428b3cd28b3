-- SUMMARY: Records whose members may stand in any order and among members of other names.
import Mathlib.Data.List.Pairwise
import RtpBridge.Proofs.Json.Record

/-!
# Members in any order

The fields of a record keep apart if no change of one shows in the other. The members of such
a record fill its draft the same in whatever order they stand (`Record.Fills.perm`), so an
object may be told entry by entry: an entry is there or, at its default, is left out.
-/

namespace RtpBridge.Json

variable {α β σ : Type}

/-! ## Fields that keep apart -/

/-- That some octets make the field change a draft so. -/
def Field.Makes (field : Field σ) (change : σ → σ) : Prop :=
  ∃ o, field.reader.Takes o change

/-- That neither of two fields sees the changes that the other one makes. -/
structure Field.IsApart (f g : Field σ) : Prop where
  comm : ∀ {c d : σ → σ}, f.Makes c → g.Makes d → ∀ draft, c (d draft) = d (c draft)
  left : ∀ {c : σ → σ}, f.Makes c → ∀ draft, g.isSet (c draft) = g.isSet draft
  right : ∀ {d : σ → σ}, g.Makes d → ∀ draft, f.isSet (d draft) = f.isSet draft

instance : Std.Symm (Field.IsApart (σ := σ)) where
  symm _ _ h := ⟨fun hc hd draft => (h.comm hd hc draft).symm, h.right, h.left⟩

/-- The field of a draft that is set to what a reader makes of the value. -/
def Field.putting (name : String) (isSet : σ → Bool) (R : Reader β) (put : β → σ → σ) : Field σ :=
  ⟨name, isSet, R.map put⟩

theorem Field.exists_put {name : String} {isSet : σ → Bool} {R : Reader β} {put : β → σ → σ}
    {change : σ → σ} (h : (Field.putting name isSet R put).Makes change) :
    ∃ b, change = put b := by
  obtain ⟨o, ho⟩ := h
  have hread := ho.read_self
  simp only [Field.putting, Reader.map] at hread
  split at hread
  · cases hread
  · next b _ _ =>
    cases hread
    exact ⟨b, rfl⟩

theorem Field.isApart_putting {γ : Type} {x y : String} {isSet isSet' : σ → Bool} {R : Reader β}
    {S : Reader γ} {put : β → σ → σ} {put' : γ → σ → σ}
    (hcomm : ∀ b c draft, put b (put' c draft) = put' c (put b draft))
    (hleft : ∀ b draft, isSet' (put b draft) = isSet' draft)
    (hright : ∀ c draft, isSet (put' c draft) = isSet draft) :
    (Field.putting x isSet R put).IsApart (Field.putting y isSet' S put') where
  comm hc hd draft := by
    obtain ⟨b, rfl⟩ := Field.exists_put hc
    obtain ⟨c, rfl⟩ := Field.exists_put hd
    exact hcomm b c draft
  left hc draft := by
    obtain ⟨b, rfl⟩ := Field.exists_put hc
    exact hleft b draft
  right hd draft := by
    obtain ⟨c, rfl⟩ := Field.exists_put hd
    exact hright c draft

namespace Record

/-- That each field of a record is set by its own changes and by no other's. -/
structure IsLoose (R : Record σ α) : Prop where
  apart : R.fields.Pairwise Field.IsApart
  sets : ∀ field ∈ R.fields, ∀ {change : σ → σ}, field.Makes change →
    ∀ draft, field.isSet (change draft) = true

/-! ## Any order -/

/-- Two members that are set one after the other may be set the other way round. -/
theorem Sets.swap {R : Record σ α} (hR : R.IsLoose) {m n : Member} {draft next last : σ}
    (hm : R.Sets m draft next) (hn : R.Sets n next last) :
    ∃ middle, R.Sets n draft middle ∧ R.Sets m middle last := by
  cases hm with
  | unknown hkey hfield hvalue => exact ⟨last, hn, .unknown hkey hfield hvalue⟩
  | @known _ f _ c hkey hf hset hvalue =>
    cases hn with
    | unknown hkey' hfield' hvalue' =>
      exact ⟨draft, .unknown hkey' hfield' hvalue', .known hkey hf hset hvalue⟩
    | @known _ g _ d hkey' hg hset' hvalue' =>
      have hfmem : f ∈ R.fields := List.mem_of_find?_eq_some hf
      have hgmem : g ∈ R.fields := List.mem_of_find?_eq_some hg
      -- the second member of one field would have found it set
      have hne : f ≠ g := by
        rintro rfl
        rw [hR.sets f hfmem ⟨_, hvalue⟩] at hset'
        exact Bool.noConfusion hset'
      have hapart : f.IsApart g := hR.apart.forall hfmem hgmem hne
      rw [hapart.left ⟨_, hvalue⟩] at hset'
      rw [← hapart.comm ⟨_, hvalue⟩ ⟨_, hvalue'⟩]
      refine ⟨d draft, .known hkey' hg hset' hvalue', .known hkey hf ?_ hvalue⟩
      rw [hapart.right ⟨_, hvalue'⟩, hset]

theorem Fills.perm {R : Record σ α} (hR : R.IsLoose) {ms ns : List Member} (h : ms.Perm ns)
    {draft last : σ} (hms : R.Fills draft ms last) : R.Fills draft ns last := by
  induction h generalizing draft with
  | nil => exact hms
  | cons m _ ih =>
    cases hms with
    | cons hm hms => exact .cons hm (ih hms)
  | swap m n l =>
    cases hms with
    | cons hn hms =>
      cases hms with
      | cons hm hms =>
        obtain ⟨middle, hm, hn⟩ := hn.swap hR hm
        exact .cons hm (.cons hn hms)
  | trans _ _ ih ih' => exact ih' (ih hms)

/-! ## Entries -/

theorem fills_of_foreign {R : Record σ α} {draft : σ} {ms : List Member}
    (h : ∀ m ∈ ms, m.IsForeign (R.fields.map (·.name))) : R.Fills draft ms draft := by
  refine fills_of_unknown fun m hm => ?_
  obtain ⟨⟨name, hkey, hname⟩, hvalue⟩ := h m hm
  refine ⟨name, hkey, List.find?_eq_none.2 fun field hfield heq => hname ?_, hvalue⟩
  exact List.mem_map.2 ⟨field, hfield, beq_iff_eq.1 heq⟩

/-- An entry puts its value into the draft, unless it is left out and the draft keeps its gap. -/
theorem exists_fills_of_entry (R : Record σ α) (put : Option β → σ → σ) (draft : σ)
    {name : String} {isSet : σ → Bool} {S : Reader β} {b : β} {mayLack : Prop}
    {P : List UInt8 → Prop} {ms : List Member}
    (hfield : R.fields.find? (·.name == name) =
      some (.putting name isSet S fun b => put (some b)))
    (hset : isSet draft = false) (hdraft : put none draft = draft)
    (hP : ∀ o, P o → S.Takes o b) (h : Entry name mayLack P ms) :
    ∃ x, R.Fills draft ms (put x draft) ∧ (x = some b ∨ x = none ∧ mayLack) := by
  cases h with
  | absent hlack => exact ⟨none, by rw [hdraft]; exact .nil, .inr ⟨rfl, hlack⟩⟩
  | @present m hm =>
    exact ⟨some b, .cons (.known hm.key hfield hset ((hP _ hm.value).map _)) .nil, .inl rfl⟩

end Record

end RtpBridge.Json
