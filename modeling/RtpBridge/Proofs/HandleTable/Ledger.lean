-- SUMMARY: Ledgers: the finite map from handles to values that the callers of a handle table rely on.
import Mathlib.Data.Finmap
import RtpBridge.HandleTable

/-!
# Ledgers

A ledger knows no slots and no generations. It is a finite map from handles to
values, together with the handles that were ever issued, and it issues a handle at
most once. What callers may conclude from a history of answers is read off here:
`Run.nodup_issued`, `Run.returned_not_found` and `Run.conserves`.
-/

namespace RtpBridge

/-- A handle with the value behind it. -/
abbrev Holding (α : Type) : Type := (_ : Handle) × α

structure Ledger (α : Type) where
  live : Finmap fun _ : Handle => α
  issued : Finset Handle
  issued_of_live : ∀ h ∈ live, h ∈ issued

namespace Ledger

variable {α : Type}

def empty : Ledger α := ⟨∅, ∅, fun _ h => absurd h Finmap.notMem_empty⟩

/-- Enters a value under a handle. -/
def issue (L : Ledger α) (h : Handle) (value : α) : Ledger α where
  live := L.live.insert h value
  issued := insert h L.issued
  issued_of_live k hk := by
    rcases Finmap.mem_insert.1 hk with rfl | hk
    · exact Finset.mem_insert_self _ _
    · exact Finset.mem_insert_of_mem (L.issued_of_live k hk)

/-- Strikes out a handle and its value. -/
def erase (L : Ledger α) (h : Handle) : Ledger α where
  live := L.live.erase h
  issued := L.issued
  issued_of_live k hk := L.issued_of_live k (Finmap.mem_erase.1 hk).2

/-- The value under a handle that has to be live. -/
def find (L : Ledger α) (h : Handle) : Except InvalidHandle α :=
  match L.live.lookup h with
  | some value => .ok value
  | none => .error ⟨h.raw⟩

/-! ## Histories -/

/-- One action and its answer. A handle to be issued is free to choose, as long as it is new. -/
inductive Step :
    Ledger α → HandleTable.Action α → HandleTable.Answer α → Ledger α → Prop where
  | register {L : Ledger α} {h : Handle} (value : α) (fresh : h ∉ L.issued) :
      Step L (.register value) (.issued h) (L.issue h value)
  | resolve (L : Ledger α) (h : Handle) : Step L (.resolve h) (.value (L.find h)) L
  | release (L : Ledger α) (h : Handle) :
      Step L (.release h) (.released (L.live.lookup h)) (L.erase h)
  | take (L : Ledger α) (h : Handle) : Step L (.take h) (.value (L.find h)) (L.erase h)
  | size (L : Ledger α) : Step L .size (.size L.live.keys.card) L

inductive Run :
    Ledger α → List (HandleTable.Action α) → List (HandleTable.Answer α) → Ledger α → Prop where
  | nil (L : Ledger α) : Run L [] [] L
  | cons {L M N : Ledger α} {action : HandleTable.Action α} {answer : HandleTable.Answer α}
      {actions : List (HandleTable.Action α)} {answers : List (HandleTable.Answer α)} :
      Step L action answer M → Run M actions answers N →
      Run L (action :: actions) (answer :: answers) N

/-- An action with its answer. -/
abbrev Exchange (α : Type) : Type := HandleTable.Action α × HandleTable.Answer α

/-- What an exchange enters. -/
def entered? : Exchange α → Option (Holding α)
  | (.register value, .issued h) => some ⟨h, value⟩
  | _ => none

/-- What an exchange gives back to the caller for good. -/
def returned? : Exchange α → Option (Holding α)
  | (.release h, .released (some value)) => some ⟨h, value⟩
  | (.take h, .value (.ok value)) => some ⟨h, value⟩
  | _ => none

/-- What an exchange finds, be it that it leaves the value or takes it. -/
def found? : Exchange α → Option (Holding α)
  | (.resolve h, .value (.ok value)) => some ⟨h, value⟩
  | exchange => returned? exchange

/-! ## What one step does -/

theorem Step.lookup_of_found {L M : Ledger α} {action : HandleTable.Action α}
    {answer : HandleTable.Answer α} (hs : Step L action answer M) {h : Handle} {value : α}
    (hf : found? (action, answer) = some ⟨h, value⟩) : L.live.lookup h = some value := by
  cases hs with
  | register => cases hf
  | size => cases hf
  | resolve h' | release h' | take h' =>
    cases hl : L.live.lookup h' with
    | none => simp [found?, returned?, find, hl] at hf
    | some v =>
      simp only [found?, returned?, find, hl, Option.some.injEq, Sigma.mk.injEq, heq_eq_eq] at hf
      obtain ⟨rfl, rfl⟩ := hf
      exact hl

theorem found?_of_returned? {exchange : Exchange α} {holding : Holding α}
    (hr : returned? exchange = some holding) : found? exchange = some holding := by
  unfold found?
  split
  · cases hr
  · exact hr

/-- What is returned is no longer live. -/
theorem Step.not_live_of_returned {L M : Ledger α} {action : HandleTable.Action α}
    {answer : HandleTable.Answer α} (hs : Step L action answer M) {h : Handle} {value : α}
    (hr : returned? (action, answer) = some ⟨h, value⟩) : h ∉ M.live := by
  cases hs with
  | register => cases hr
  | resolve => cases hr
  | size => cases hr
  | release h' | take h' =>
    have hh : h' = h := by
      cases hl : L.live.lookup h' with
      | none => simp [returned?, find, hl] at hr
      | some v =>
        simp only [returned?, find, hl, Option.some.injEq, Sigma.mk.injEq] at hr
        exact hr.1
    rw [hh]
    exact Finmap.notMem_erase_self

theorem Step.issued_subset {L M : Ledger α} {action : HandleTable.Action α}
    {answer : HandleTable.Answer α} (hs : Step L action answer M) : L.issued ⊆ M.issued := by
  cases hs with
  | register value fresh => exact Finset.subset_insert _ _
  | resolve => exact Finset.Subset.refl _
  | release => exact Finset.Subset.refl _
  | take => exact Finset.Subset.refl _
  | size => exact Finset.Subset.refl _

/-- A handle that was issued and has gone does not come back. -/
theorem Step.not_live {L M : Ledger α} {action : HandleTable.Action α}
    {answer : HandleTable.Answer α} (hs : Step L action answer M) {h : Handle}
    (hi : h ∈ L.issued) (hn : h ∉ L.live) : h ∉ M.live := by
  cases hs with
  | register value fresh =>
    intro hm
    rcases Finmap.mem_insert.1 hm with rfl | hm
    · exact fresh hi
    · exact hn hm
  | resolve => exact hn
  | release => exact fun hm => hn (Finmap.mem_erase.1 hm).2
  | take => exact fun hm => hn (Finmap.mem_erase.1 hm).2
  | size => exact hn

theorem Step.entered_fresh {L M : Ledger α} {action : HandleTable.Action α}
    {answer : HandleTable.Answer α} (hs : Step L action answer M) {holding : Holding α}
    (he : entered? (action, answer) = some holding) :
    holding.1 ∉ L.issued ∧ holding.1 ∈ M.issued := by
  cases hs with
  | register value fresh => cases he; exact ⟨fresh, Finset.mem_insert_self _ _⟩
  | resolve => cases he
  | release => cases he
  | take => cases he
  | size => cases he

theorem card_keys (m : Finmap fun _ : Handle => α) : m.keys.card = Multiset.card m.entries :=
  Multiset.card_map _ _

/-- The entries of a map, split at a key that it has. -/
theorem entries_eq_cons_erase {m : Finmap fun _ : Handle => α} {h : Handle} {value : α}
    (hl : m.lookup h = some value) : m.entries = ⟨h, value⟩ ::ₘ (m.erase h).entries := by
  have hm : (m.erase h).insert h value = m := by
    apply Finmap.ext_lookup
    intro k
    by_cases hk : k = h
    · rw [hk, Finmap.lookup_insert, hl]
    · rw [Finmap.lookup_insert_of_ne _ hk, Finmap.lookup_erase_ne hk]
  rw [← Finmap.entries_insert_of_notMem Finmap.notMem_erase_self, hm]

theorem erase_eq_of_lookup_eq_none {m : Finmap fun _ : Handle => α} {h : Handle}
    (hl : m.lookup h = none) : m.erase h = m := by
  apply Finmap.ext_lookup
  intro k
  by_cases hk : k = h
  · rw [hk, Finmap.lookup_erase, hl]
  · rw [Finmap.lookup_erase_ne hk]

/-- What was live or is entered is live or returned afterwards. -/
theorem Step.conserves {L M : Ledger α} {action : HandleTable.Action α}
    {answer : HandleTable.Answer α} (hs : Step L action answer M) :
    L.live.entries + ↑(entered? (action, answer)).toList =
      M.live.entries + ↑(returned? (action, answer)).toList := by
  cases hs with
  | @register h value fresh =>
    have hn : h ∉ L.live := fun hm => fresh (L.issued_of_live h hm)
    simp only [entered?, returned?, issue, Finmap.entries_insert_of_notMem hn, Option.toList_some,
      Option.toList_none, Multiset.coe_singleton, Multiset.coe_nil, add_zero]
    rw [add_comm, Multiset.singleton_add]
  | resolve => rfl
  | size => rfl
  | release h | take h =>
    cases hl : L.live.lookup h with
    | none =>
      simp only [entered?, returned?, find, hl, erase, erase_eq_of_lookup_eq_none hl]
    | some v =>
      simp only [entered?, returned?, find, hl, erase, Option.toList_some, Option.toList_none,
        Multiset.coe_singleton, Multiset.coe_nil, add_zero]
      rw [entries_eq_cons_erase hl, add_comm, Multiset.singleton_add]

/-! ## What a history shows -/

variable {L N : Ledger α} {actions : List (HandleTable.Action α)}
  {answers : List (HandleTable.Answer α)}

theorem Run.not_found (hr : Run L actions answers N) {h : Handle} (hi : h ∈ L.issued)
    (hn : h ∉ L.live) : ∀ exchange ∈ actions.zip answers, ∀ value,
      found? exchange ≠ some ⟨h, value⟩ := by
  induction hr with
  | nil L => intro exchange he; cases he
  | cons hs hr ih =>
    intro exchange he value hf
    rcases List.mem_cons.1 he with rfl | he
    · exact hn (Finmap.mem_of_lookup_eq_some (hs.lookup_of_found hf))
    · exact ih (hs.issued_subset hi) (hs.not_live hi hn) exchange he value hf

/-- A handle whose value was returned is never found again. -/
theorem Run.returned_not_found (hr : Run L actions answers N) :
    (actions.zip answers).Pairwise fun earlier later =>
      ∀ h value value', returned? earlier = some ⟨h, value⟩ →
        found? later ≠ some ⟨h, value'⟩ := by
  induction hr with
  | nil L => exact List.Pairwise.nil
  | @cons L M N action answer actions answers hs hr ih =>
    refine List.Pairwise.cons ?_ ih
    intro later hl h value value' hv
    have hi : h ∈ L.issued := L.issued_of_live h
      (Finmap.mem_of_lookup_eq_some (hs.lookup_of_found (found?_of_returned? hv)))
    exact hr.not_found (hs.issued_subset hi) (hs.not_live_of_returned hv) later hl value'

theorem Run.entered_fresh (hr : Run L actions answers N) {holding : Holding α}
    (hh : holding ∈ (actions.zip answers).filterMap entered?) : holding.1 ∉ L.issued := by
  induction hr with
  | nil L => cases hh
  | cons hs hr ih =>
    obtain ⟨exchange, he, hx⟩ := List.mem_filterMap.1 hh
    rcases List.mem_cons.1 he with rfl | he
    · exact (hs.entered_fresh hx).1
    · exact fun hi => ih (List.mem_filterMap.2 ⟨exchange, he, hx⟩) (hs.issued_subset hi)

/-- No handle is issued twice. -/
theorem Run.nodup_entered (hr : Run L actions answers N) :
    (((actions.zip answers).filterMap entered?).map (·.1)).Nodup := by
  induction hr with
  | nil L => exact List.nodup_nil
  | @cons L M N action answer actions answers hs hr ih =>
    rw [List.zip_cons_cons, List.filterMap_cons]
    split
    · exact ih
    · next holding he =>
      rw [List.map_cons, List.nodup_cons]
      refine ⟨?_, ih⟩
      intro hm
      obtain ⟨other, ho, heq⟩ := List.mem_map.1 hm
      exact hr.entered_fresh ho (heq ▸ (hs.entered_fresh he).2)

/-- Of what was live or has been entered, nothing is lost and nothing is there twice. -/
theorem Run.conserves (hr : Run L actions answers N) :
    L.live.entries + ↑((actions.zip answers).filterMap entered?) =
      N.live.entries + ↑((actions.zip answers).filterMap returned?) := by
  induction hr with
  | nil L => rfl
  | @cons L M N action answer actions answers hs hr ih =>
    simp only [List.filterMap_eq_flatMap_toList] at ih ⊢
    rw [List.zip_cons_cons, List.flatMap_cons, List.flatMap_cons, ← Multiset.coe_add,
      ← Multiset.coe_add, ← add_assoc, hs.conserves, add_right_comm, ih, add_right_comm, add_assoc]

end Ledger

end RtpBridge
