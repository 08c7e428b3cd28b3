-- SUMMARY: Values that several holders share.

/-!
# Shared values

A holder is a reference to a value. A clone of a holder refers to the same value,
so what is done through one is seen through the other; a new holder comes with a
value of its own. The history of one value is what was done through any of its holders.
-/

namespace RtpBridge

structure Shared (σ : Type) where
  values : List σ
  /-- For each holder the position of its value. -/
  holders : List Nat
deriving Repr, DecidableEq

namespace Shared

variable {σ : Type}

/-- One holder with its value. -/
def single (value : σ) : Shared σ := ⟨[value], [0]⟩

/-- Adds a holder with a value of its own; the answer is the holder's number. -/
def new (s : Shared σ) (value : σ) : Nat × Shared σ :=
  (s.holders.length, ⟨s.values ++ [value], s.holders ++ [s.values.length]⟩)

/-- Adds a holder for the value of another one. -/
def clone (s : Shared σ) (holder : Nat) : Nat × Shared σ :=
  (s.holders.length, ⟨s.values, s.holders ++ s.holders[holder]?.toList⟩)

/-- The position of the value that a holder refers to. -/
def place? (s : Shared σ) (holder : Nat) : Option Nat := s.holders[holder]?

def get? (s : Shared σ) (holder : Nat) : Option σ := (s.place? holder).bind (s.values[·]?)

/-- The value at a position; one that is yet to come is as new values are. -/
def valueAt (s : Shared σ) (fresh : σ) (place : Nat) : σ := s.values[place]?.getD fresh

/-- Changes the value that a holder refers to. -/
def modify (s : Shared σ) (holder : Nat) (f : σ → σ) : Shared σ :=
  match s.place? holder with
  | some place => { s with values := s.values.modify place f }
  | none => s

/-- Acts on the value that a holder refers to; without one, a new value gives the answer. -/
def through {β : Type} (s : Shared σ) (fresh : σ) (holder : Nat) (act : σ → β × σ) :
    β × Shared σ :=
  ((act ((s.get? holder).getD fresh)).1, s.modify holder fun value => (act value).2)

-- ---------------------------------------------------------------------------
-- Histories
-- ---------------------------------------------------------------------------

section

variable {τ α β : Type}

/-- The actions of a run that concern what one looks at, each with its answer. -/
def history (step : τ → α → β × τ) (concerns : τ → α → Bool) (state : τ) : List α → List (α × β)
  | [] => []
  | action :: rest =>
    let (answer, after) := step state action
    let later := history step concerns after rest
    if concerns state action then (action, answer) :: later else later

/-- What becomes of a value in a history. -/
def after (act : σ → α → β × σ) (value : σ) (history : List (α × β)) : σ :=
  history.foldl (fun value entry => (act value entry.1).2) value

/-- That a value which nothing else happens to gives the answers of a history. -/
def Explains (act : σ → α → β × σ) (value : σ) : List (α × β) → Prop
  | [] => True
  | (action, answer) :: rest =>
    (act value action).1 = answer ∧ Explains act (act value action).2 rest

end

end Shared

end RtpBridge
