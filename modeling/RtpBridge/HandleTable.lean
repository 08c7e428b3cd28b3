-- SUMMARY: A table of values that are known to a host by handles.
import RtpBridge.Handle

/-!
# Handle tables

A table keeps its values in slots. A slot whose value has gone is used again for
the next value, in its next generation, so a handle to the old value stops
resolving. The slot that became free last is used first, and a slot is added
only when none is free.
-/

namespace RtpBridge

structure Slot (α : Type) where
  generation : Generation
  value : Option α
deriving Repr, DecidableEq

structure HandleTable (α : Type) where
  slots : Array (Slot α)
  /-- The slots without a value; the first is the next to be used. -/
  free : List Nat
deriving Repr, DecidableEq

namespace HandleTable

variable {α : Type}

def empty : HandleTable α := ⟨#[], []⟩

/-- The generation in which a slot is used next. -/
def nextGeneration (t : HandleTable α) (index : Nat) : Generation :=
  match t.slots[index]? with
  | some slot => slot.generation.next
  | none => .first

/-- Stores a value and issues a handle for it. -/
def register (t : HandleTable α) (value : α) : Handle × HandleTable α :=
  match t.free with
  | index :: free =>
    let generation := t.nextGeneration index
    (.pack index generation, ⟨t.slots.setIfInBounds index ⟨generation, some value⟩, free⟩)
  | [] => (.pack t.slots.size .first, ⟨t.slots.push ⟨.first, some value⟩, []⟩)

/-- The value behind a handle, if the handle's slot is still in its generation. -/
def resolve? (t : HandleTable α) (h : Handle) : Option α :=
  match t.slots[h.index]? with
  | some slot => if slot.generation.val.toNat = h.generation then slot.value else none
  | none => none

/-- Takes the value out of a handle's slot. -/
def release (t : HandleTable α) (h : Handle) : Option α × HandleTable α :=
  match t.resolve? h with
  | some value =>
    (some value,
      ⟨t.slots.modify h.index fun slot => { slot with value := none }, h.index :: t.free⟩)
  | none => (none, t)

def resolve (t : HandleTable α) (h : Handle) : Except InvalidHandle α :=
  match t.resolve? h with
  | some value => .ok value
  | none => .error ⟨h.raw⟩

/-- Like `release`, for a handle that has to be live. -/
def take (t : HandleTable α) (h : Handle) : Except InvalidHandle α × HandleTable α :=
  match t.release h with
  | (some value, t) => (.ok value, t)
  | (none, t) => (.error ⟨h.raw⟩, t)

/-- How many values there are. -/
def size (t : HandleTable α) : Nat := t.slots.size - t.free.length

def isEmpty (t : HandleTable α) : Bool := t.size == 0

theorem release_of_resolve?_eq_none {t : HandleTable α} {h : Handle} (hn : t.resolve? h = none) :
    t.release h = (none, t) := by simp only [release, hn]

theorem fst_release (t : HandleTable α) (h : Handle) : (t.release h).1 = t.resolve? h := by
  unfold release
  split
  · next hv => simp only [hv]
  · next hn => simp only [hn]

-- ---------------------------------------------------------------------------
-- Histories
-- ---------------------------------------------------------------------------

inductive Action (α : Type) where
  | register (value : α)
  | resolve (handle : Handle)
  | release (handle : Handle)
  | take (handle : Handle)
  | size
deriving Repr, DecidableEq

inductive Answer (α : Type) where
  | issued (handle : Handle)
  /-- The value behind a handle, for an action that needs one. -/
  | value (result : Except InvalidHandle α)
  | released (value : Option α)
  | size (n : Nat)

def step (t : HandleTable α) : Action α → Answer α × HandleTable α
  | .register value =>
    let (handle, t) := t.register value
    (.issued handle, t)
  | .resolve handle => (.value (t.resolve handle), t)
  | .release handle =>
    let (value, t) := t.release handle
    (.released value, t)
  | .take handle =>
    let (result, t) := t.take handle
    (.value result, t)
  | .size => (.size t.size, t)

/-- The answers to a sequence of actions, and the table after it. -/
def run (t : HandleTable α) : List (Action α) → List (Answer α) × HandleTable α
  | [] => ([], t)
  | action :: rest =>
    let (answer, t) := t.step action
    let (answers, t) := run t rest
    (answer :: answers, t)

end HandleTable

end RtpBridge
