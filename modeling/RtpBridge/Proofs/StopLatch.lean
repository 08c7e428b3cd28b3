-- SUMMARY: The first trigger of a latch is the only one that counts, and no wait misses it.
import RtpBridge.Proofs.Shared
import RtpBridge.StopLatch

/-!
# Stop latches: laws

A latch is triggered by the earliest trigger in its history and stays so (`Room.IsLatching`). A
wait sleeps only while the latch is armed and is over only once it is triggered (`Wait.Fits`),
which every step preserves, so that after the trigger it takes two steps of the wait at most until
it is over (`Room.waitsWell`).
-/

namespace RtpBridge.StopLatch

theorem eq_triggered_iff {l : StopLatch} : l = .triggered ↔ l.isTriggered := by
  cases l <;> simp [isTriggered]

theorem eq_armed_iff {l : StopLatch} : l = .armed ↔ ¬ l.isTriggered := by
  cases l <;> simp [isTriggered]

theorem snd_trigger (l : StopLatch) : l.trigger.2 = .triggered := by cases l <;> rfl

/-! ## One wait -/

namespace Wait

variable {latch : StopLatch} {wait : Wait}

/-- That a wait does not sleep through a trigger and is not over without one. -/
structure Fits (latch : StopLatch) (wait : Wait) : Prop where
  armed : wait.phase = .asleep → latch = .armed
  triggered : wait.phase = .ended → latch = .triggered

/-- How many steps a wait is at most away from its end, if nobody has to wake it. -/
def Phase.due : Phase → Nat
  | .ended => 0
  | .looking => 1
  | .drowsy => 2
  | .asleep => 3

theorem due_eq_zero {phase : Phase} (h : phase.due = 0) : phase = .ended := by
  cases phase <;> first | rfl | cases h

theorem place_turn (latch : StopLatch) (wait : Wait) : (wait.turn latch).place = wait.place := by
  unfold turn
  split <;> rfl

theorem Fits.turn (h : wait.Fits latch) : (wait.turn latch).Fits latch := by
  unfold Wait.turn
  split
  · exact ⟨nofun, nofun⟩
  · exact ⟨nofun, fun _ => rfl⟩
  · exact ⟨fun _ => rfl, nofun⟩
  · exact ⟨nofun, nofun⟩
  · exact h
  · exact h

/-- A step of a wait that is awake brings it nearer to its end once the latch is triggered. -/
theorem due_turn (h : wait.Fits .triggered) :
    (wait.turn .triggered).phase.due = wait.phase.due - 1 := by
  obtain ⟨place, phase⟩ := wait
  cases phase with
  | looking | drowsy | ended => rfl
  | asleep => cases h.armed rfl

theorem due_le_two (h : wait.Fits .triggered) : wait.phase.due ≤ 2 := by
  obtain ⟨place, phase⟩ := wait
  cases phase with
  | looking | drowsy | ended => exact Nat.le_of_ble_eq_true rfl
  | asleep => cases h.armed rfl

theorem place_settle (latch : StopLatch) (wait : Wait) :
    (wait.settle latch).place = wait.place :=
  (place_turn latch _).trans (place_turn latch wait)

theorem Fits.settle (h : wait.Fits latch) : (wait.settle latch).Fits latch := h.turn.turn

theorem due_settle (h : wait.Fits .triggered) :
    (wait.settle .triggered).phase.due = wait.phase.due - 2 := by
  rw [Wait.settle, due_turn h.turn, due_turn h]
  rfl

/-- Someone who lets a wait settle hears that it is over, if the latch is triggered, and that it is
not, if it is armed. -/
theorem progress_settle (h : wait.Fits latch) :
    progress wait.phase (wait.settle latch).phase = .pending ↔ latch = .armed := by
  obtain ⟨place, phase⟩ := wait
  cases latch with
  | armed =>
    cases phase with
    | looking | drowsy | asleep => exact iff_of_true rfl rfl
    | ended => cases h.triggered rfl
  | triggered =>
    cases phase with
    | looking | drowsy | ended => exact iff_of_false nofun nofun
    | asleep => cases h.armed rfl

theorem place_wake (wait : Wait) : wait.wake.place = wait.place := by
  unfold wake
  split <;> rfl

theorem fits_wake (wait : Wait) : wait.wake.Fits .triggered := by
  unfold wake
  split
  · exact ⟨nofun, nofun⟩
  · next hawake => exact ⟨fun hasleep => absurd hasleep hawake, fun _ => rfl⟩

end Wait

/-! ## One step of a room -/

namespace Room

variable {room : Room} {action : Action} {place n : Nat} {wait : Wait}

def Action.isTrigger : Action → Bool
  | .trigger _ => true
  | _ => false

/-- That the holders have their latches and that every wait fits its latch. -/
structure IsSound (room : Room) : Prop where
  valid : room.latches.IsValid
  fits : ∀ wait ∈ room.waits, wait.Fits (room.latchAt wait.place)

theorem isSound_single : single.IsSound := ⟨Shared.isValid_single .armed, nofun⟩

theorem goOn_of_some (hwait : room.waits[n]? = some wait) (go : StopLatch → Wait → Wait) :
    room.goOn n go =
      (Wait.progress wait.phase (go (room.latchAt wait.place) wait).phase,
        { room with waits := room.waits.set n (go (room.latchAt wait.place) wait) }) := by
  simp only [goOn, hwait]

theorem IsSound.goOn (h : room.IsSound) (n : Nat) {go : StopLatch → Wait → Wait}
    (hplace : ∀ latch wait, (go latch wait).place = wait.place)
    (hgo : ∀ latch wait, wait.Fits latch → (go latch wait).Fits latch) :
    (room.goOn n go).2.IsSound := by
  cases hwait : room.waits[n]? with
  | none =>
    simp only [Room.goOn, hwait]
    exact h
  | some wait =>
    rw [goOn_of_some hwait]
    refine ⟨h.valid, fun other hother => ?_⟩
    rcases List.mem_or_eq_of_mem_set hother with hold | rfl
    · exact h.fits other hold
    · rw [hplace]
      exact hgo _ _ (h.fits wait (List.mem_of_getElem? hwait))

theorem isFirst_trigger {holder : Nat} (hplace : room.latches.place? holder = some place) :
    (room.latches.through .armed holder StopLatch.trigger).1 =
      !(room.latchAt place).isTriggered :=
  (Shared.fst_through hplace _).trans (fst_trigger _)

/-- A trigger triggers the latch of its holder. -/
theorem latchAt_trigger (h : room.IsSound) {holder : Nat}
    (hplace : room.latches.place? holder = some place) :
    (room.trigger holder).2.latchAt place = .triggered :=
  (Shared.valueAt_modify_self h.valid hplace _).trans (snd_trigger _)

theorem latchAt_trigger_of_ne {holder : Nat} (hplace : room.latches.place? holder ≠ some place) :
    (room.trigger holder).2.latchAt place = room.latchAt place :=
  Shared.valueAt_modify_of_ne hplace _

theorem IsSound.trigger (h : room.IsSound) (holder : Nat) : (room.trigger holder).2.IsSound := by
  refine ⟨h.valid.modify holder _, fun wait hwait => ?_⟩
  obtain ⟨before, hbefore, rfl⟩ := List.mem_map.1 hwait
  have hfits := h.fits before hbefore
  by_cases hplace : room.latches.place? holder = some before.place
  · have hfirst := isFirst_trigger hplace
    cases hlatch : room.latchAt before.place with
    | armed =>
      rw [hlatch] at hfirst
      rw [if_pos ⟨hfirst, hplace⟩, Wait.place_wake, latchAt_trigger h hplace]
      exact Wait.fits_wake before
    | triggered =>
      -- A trigger that is not the first wakes nobody, but then nobody is asleep.
      rw [hlatch] at hfirst hfits
      rw [if_neg fun hboth => Bool.false_ne_true (hfirst.symm.trans hboth.1),
        latchAt_trigger h hplace]
      exact hfits
  · rw [if_neg fun hboth => hplace hboth.2, latchAt_trigger_of_ne hplace]
    exact hfits

theorem IsSound.beginWait (h : room.IsSound) (holder : Nat) :
    (room.beginWait holder).IsSound := by
  unfold Room.beginWait
  split
  · refine ⟨h.valid, fun wait hwait => ?_⟩
    rcases List.mem_append.1 hwait with hold | hnew
    · exact h.fits wait hold
    · rw [List.mem_singleton.1 hnew]
      exact ⟨nofun, nofun⟩
  · exact h

theorem IsSound.step (h : room.IsSound) (action : Action) : (room.step action).2.IsSound := by
  cases action with
  | trigger holder => exact h.trigger holder
  | check holder => exact h
  | clone holder => exact ⟨h.valid.clone holder, h.fits⟩
  | new =>
    refine ⟨h.valid.new .armed, fun wait hwait => ?_⟩
    have hlatch : (room.step .new).2.latchAt wait.place = room.latchAt wait.place :=
      Shared.valueAt_new room.latches .armed wait.place
    rw [hlatch]
    exact h.fits wait hwait
  | wait holder => exact h.beginWait holder
  | poll n => exact h.goOn n Wait.place_settle fun _ _ => Wait.Fits.settle
  | turn n => exact h.goOn n Wait.place_turn fun _ _ => Wait.Fits.turn

/-! ## The history of a latch -/

/-- What an action does to the latch that it goes to. -/
def act (latch : StopLatch) : Action → Answer × StopLatch
  | .trigger _ => (.flag latch.trigger.1, latch.trigger.2)
  | _ => (.flag latch.isTriggered, latch)

theorem latches_goOn (room : Room) (n : Nat) (go : StopLatch → Wait → Wait) :
    (room.goOn n go).2.latches = room.latches := by
  unfold goOn
  split <;> rfl

theorem latches_beginWait (room : Room) (holder : Nat) :
    (room.beginWait holder).latches = room.latches := by
  unfold beginWait
  split <;> rfl

/-- Only triggers change latches. -/
theorem latchAt_step (h : action.isTrigger = false) (room : Room) (place : Nat) :
    (room.step action).2.latchAt place = room.latchAt place := by
  cases action with
  | trigger => cases h
  | check | clone => rfl
  | new => exact Shared.valueAt_new room.latches .armed place
  | wait holder => exact congrArg (·.valueAt .armed place) (latches_beginWait room holder)
  | poll n => exact congrArg (·.valueAt .armed place) (latches_goOn room n Wait.settle)
  | turn n => exact congrArg (·.valueAt .armed place) (latches_goOn room n Wait.turn)

theorem keeps_step (room : Room) (action : Action) :
    room.latches.Keeps (room.step action).2.latches := by
  cases action with
  | trigger holder => exact Shared.keeps_modify room.latches holder _
  | check => exact Shared.Keeps.refl _
  | clone holder => exact Shared.keeps_clone room.latches holder
  | new => exact Shared.keeps_new room.latches .armed
  | wait holder =>
    rw [step, latches_beginWait]
    exact Shared.Keeps.refl _
  | poll n =>
    rw [step, latches_goOn]
    exact Shared.Keeps.refl _
  | turn n =>
    rw [step, latches_goOn]
    exact Shared.Keeps.refl _

/-- The holders of a latch are the one that came with it and its clones. -/
theorem admits (h : room.IsSound) : Shared.Admits step (·.latches) .clone .new .added room :=
  h.valid.admits keeps_step (fun _ => ⟨rfl, rfl⟩) ⟨rfl, rfl⟩

/-- A wait through a holder is one more wait for the latch of that holder. -/
theorem step_wait {holder : Nat} (hplace : room.latches.place? holder = some place) :
    room.step (.wait holder) =
      (.added room.waits.length, { room with waits := room.waits ++ [⟨place, .looking⟩] }) := by
  simp only [step, beginWait, hplace]

theorem tracks (place : Nat) :
    Shared.Tracks step (concerns place) act (·.latchAt place) IsSound where
  keeps room action hsound := hsound.step action
  acts room action hsound hconcerns := by
    obtain ⟨holder, hholder, hplace⟩ :=
      Option.bind_eq_some_iff.1 (of_decide_eq_true hconcerns)
    cases action with
    | trigger =>
      cases hholder
      exact ⟨congrArg Answer.flag (Shared.fst_through hplace _),
        Shared.valueAt_modify_self hsound.valid hplace _⟩
    | check =>
      cases hholder
      have hlatch : room.latch holder = room.latchAt place := Shared.getD_get? StopLatch.armed hplace
      exact ⟨congrArg (fun latch : StopLatch => Answer.flag latch.isTriggered) hlatch, rfl⟩
    | clone | new | wait | poll | turn => cases hholder
  rests room action hsound hconcerns := by
    cases action with
    | trigger holder => exact latchAt_trigger_of_ne (of_decide_eq_false hconcerns)
    | check | clone | new | wait | poll | turn => exact latchAt_step rfl room place

/-- Whether a history has a trigger in it. -/
def isTriggeredIn (history : List (Action × Answer)) : Bool := history.any (·.1.isTrigger)

/-- Whether an entry is a trigger that is told that it was the first. -/
def isWinner (entry : Action × Answer) : Bool := entry.1.isTrigger && entry.2 == .flag true

/-- That the earliest trigger is the one that counts, and that everyone sees the latch as it is. -/
structure IsLatching (history : List (Action × Answer)) : Prop where
  /-- Exactly one trigger is told that it was the first, namely the earliest, if there is one. -/
  winner : history.filter isWinner = (history.find? (·.1.isTrigger)).toList
  trigger : ∀ before holder answer later,
    history = before ++ (.trigger holder, answer) :: later → answer = .flag !isTriggeredIn before
  check : ∀ before holder answer later,
    history = before ++ (.check holder, answer) :: later → answer = .flag (isTriggeredIn before)

section

variable {history : List (Action × Answer)} {latch : StopLatch}

theorem snd_act (latch : StopLatch) (action : Action) :
    (act latch action).2 = if action.isTrigger then .triggered else latch := by
  cases action with
  | trigger => exact snd_trigger latch
  | check | clone | new | wait | poll | turn => rfl

theorem isWinner_act (latch : StopLatch) (action : Action) :
    isWinner (action, (act latch action).1) = (action.isTrigger && !latch.isTriggered) := by
  cases latch <;> cases action <;> rfl

theorem isTriggered_after (history : List (Action × Answer)) (latch : StopLatch) :
    (Shared.after act latch history).isTriggered =
      (latch.isTriggered || isTriggeredIn history) := by
  induction history generalizing latch with
  | nil => exact (Bool.or_false _).symm
  | cons entry rest ih =>
    refine (ih (act latch entry.1).2).trans ?_
    rw [snd_act, isTriggeredIn, isTriggeredIn, List.any_cons]
    cases entry.1.isTrigger with
    | true => exact (Bool.or_true latch.isTriggered).symm
    | false => rfl

theorem filter_isWinner_of_triggered (h : Shared.Explains act .triggered history) :
    history.filter isWinner = [] := by
  induction history with
  | nil => rfl
  | cons entry rest ih =>
    obtain ⟨action, answer⟩ := entry
    obtain ⟨rfl, hrest⟩ := h
    have hnext : (act .triggered action).2 = .triggered := by rw [snd_act, ite_self]
    rw [hnext] at hrest
    rw [List.filter_cons_of_neg, ih hrest]
    rw [isWinner_act, StopLatch.isTriggered, Bool.not_true, Bool.and_false]
    exact Bool.false_ne_true

theorem filter_isWinner_of_armed (h : Shared.Explains act .armed history) :
    history.filter isWinner = (history.find? (·.1.isTrigger)).toList := by
  induction history with
  | nil => rfl
  | cons entry rest ih =>
    obtain ⟨action, answer⟩ := entry
    obtain ⟨rfl, hrest⟩ := h
    have hwinner := isWinner_act .armed action
    rw [snd_act] at hrest
    cases haction : action.isTrigger with
    | true =>
      rw [haction] at hrest hwinner
      rw [List.filter_cons_of_pos hwinner, filter_isWinner_of_triggered hrest]
      simp only [List.find?_cons, haction, Option.toList_some]
    | false =>
      rw [haction] at hrest hwinner
      rw [List.filter_cons_of_neg (Bool.eq_false_iff.1 hwinner), ih hrest]
      simp only [List.find?_cons, haction]

theorem isLatching_of_explains (h : Shared.Explains act .armed history) : IsLatching history where
  winner := filter_isWinner_of_armed h
  trigger := by
    rintro before holder answer later rfl
    have hlatch := isTriggered_after before .armed
    exact h.answer.trans (congrArg Answer.flag ((fst_trigger _).trans (congrArg not hlatch)))
  check := by
    rintro before holder answer later rfl
    exact h.answer.trans (congrArg Answer.flag (isTriggered_after before .armed))

end

/-! ## Waits for a triggered latch -/

/-- Whether an action lets a wait take steps. -/
def Action.letsGoOn (n : Nat) : Action → Bool
  | .poll m | .turn m => m = n
  | _ => false

/-- A triggered latch stays so. -/
theorem latchAt_step_of_triggered (h : room.IsSound) (hlatch : room.latchAt place = .triggered)
    (action : Action) : (room.step action).2.latchAt place = .triggered := by
  cases haction : action.isTrigger with
  | false => rw [latchAt_step haction, hlatch]
  | true =>
    cases action with
    | trigger holder =>
      by_cases hplace : room.latches.place? holder = some place
      · exact latchAt_trigger h hplace
      · exact (latchAt_trigger_of_ne hplace).trans hlatch
    | check | clone | new | wait | poll | turn => cases haction

/-- A wait that is let go on comes nearer to its end, and no other is moved. -/
theorem due_goOn {m : Nat} {go : StopLatch → Wait → Wait} (hwait : room.waits[n]? = some wait)
    (hlatch : room.latchAt wait.place = .triggered)
    (hplace : (go .triggered wait).place = wait.place)
    (hdue : (go .triggered wait).phase.due ≤ wait.phase.due - 1) :
    ∃ next, (room.goOn m go).2.waits[n]? = some next ∧ next.place = wait.place ∧
      next.phase.due ≤ wait.phase.due - if m = n then 1 else 0 := by
  by_cases hm : m = n
  · subst hm
    refine ⟨go .triggered wait, ?_, hplace, by rwa [if_pos rfl]⟩
    rw [goOn_of_some hwait, hlatch]
    exact List.getElem?_set_self (List.getElem?_eq_some_iff.1 hwait).1
  · refine ⟨wait, ?_, rfl, by rw [if_neg hm]; exact Nat.le_refl _⟩
    unfold goOn
    split
    · exact hwait
    · exact (List.getElem?_set_ne hm).trans hwait

/-- Nobody sets a wait back whose latch is triggered. -/
theorem waits_trigger_of_triggered (hwait : room.waits[n]? = some wait)
    (hlatch : room.latchAt wait.place = .triggered) (holder : Nat) :
    (room.trigger holder).2.waits[n]? = some wait := by
  have hnot : ¬ ((room.latches.through .armed holder StopLatch.trigger).1 ∧
      room.latches.place? holder = some wait.place) := by
    rintro ⟨hfirst, hplace⟩
    have hlast := isFirst_trigger hplace
    rw [hlatch] at hlast
    exact Bool.false_ne_true (hlast.symm.trans hfirst)
  simp only [trigger, List.getElem?_map, hwait, Option.map_some, if_neg hnot]

/-- Once the latch is triggered, a wait comes nearer to its end whenever it is let go on. -/
theorem due_step (h : room.IsSound) (hwait : room.waits[n]? = some wait)
    (hlatch : room.latchAt wait.place = .triggered) (action : Action) :
    ∃ next, (room.step action).2.waits[n]? = some next ∧ next.place = wait.place ∧
      next.phase.due ≤ wait.phase.due - if action.letsGoOn n then 1 else 0 := by
  have hfits := h.fits wait (List.mem_of_getElem? hwait)
  rw [hlatch] at hfits
  cases action with
  | trigger holder =>
    exact ⟨wait, waits_trigger_of_triggered hwait hlatch holder, rfl, Nat.le_refl _⟩
  | check | clone | new => exact ⟨wait, hwait, rfl, Nat.le_refl _⟩
  | wait holder =>
    refine ⟨wait, ?_, rfl, Nat.le_refl _⟩
    simp only [step, beginWait]
    split
    · exact (List.getElem?_append_left (List.getElem?_eq_some_iff.1 hwait).1).trans hwait
    · exact hwait
  | poll m =>
    simp only [Action.letsGoOn, decide_eq_true_iff]
    refine due_goOn hwait hlatch (Wait.place_settle .triggered wait) ?_
    rw [Wait.due_settle hfits]
    exact Nat.sub_le_sub_left (by decide) _
  | turn m =>
    simp only [Action.letsGoOn, decide_eq_true_iff]
    exact due_goOn hwait hlatch (Wait.place_turn .triggered wait) (Nat.le_of_eq (Wait.due_turn hfits))

theorem due_final (h : room.IsSound) (hwait : room.waits[n]? = some wait)
    (hlatch : room.latchAt wait.place = .triggered) (schedule : List Action) :
    ∃ next, (Shared.final step room schedule).waits[n]? = some next ∧ next.place = wait.place ∧
      next.phase.due ≤ wait.phase.due - schedule.countP (·.letsGoOn n) := by
  induction schedule generalizing room wait with
  | nil => exact ⟨wait, hwait, rfl, Nat.le_refl _⟩
  | cons action rest ih =>
    obtain ⟨next, hnext, hplace, hdue⟩ := due_step h hwait hlatch action
    have hlatch' := latchAt_step_of_triggered h hlatch action
    rw [← hplace] at hlatch'
    obtain ⟨last, hlast, hsame, hle⟩ := ih (h.step action) hnext hlatch'
    refine ⟨last, hlast, hsame.trans hplace, ?_⟩
    rw [List.countP_cons]
    omega

/-! ## Runs -/

/-- The room after a run. -/
def after (schedule : List Action) : Room := Shared.final step single schedule

theorem isSound_after (schedule : List Action) : (after schedule).IsSound :=
  (tracks 0).invariant_final isSound_single schedule

theorem latchAt_single (place : Nat) : single.latchAt place = .armed := by
  cases place <;> rfl

/-- A latch is triggered if and only if someone has triggered it. -/
theorem latchAt_after (schedule : List Action) (place : Nat) :
    ((after schedule).latchAt place).isTriggered = isTriggeredIn (history place single schedule) := by
  have hvalue := (tracks place).value_final isSound_single schedule
  rw [latchAt_single] at hvalue
  exact (congrArg isTriggered hvalue).trans (isTriggered_after _ .armed)

/-- That the waits of a run are over once their latch is triggered, and not before. -/
structure WaitsWell (schedule : List Action) : Prop where
  /-- Whoever waits through a holder has begun a wait for the latch of that holder. -/
  begins : ∀ holder place, (after schedule).latches.place? holder = some place →
    (after schedule).step (.wait holder) = (.added (after schedule).waits.length,
      { after schedule with waits := (after schedule).waits ++ [⟨place, .looking⟩] })
  /-- No wait is over before the first trigger. -/
  patient : ∀ wait ∈ (after schedule).waits, wait.phase = .ended →
    isTriggeredIn (history wait.place single schedule)
  /-- No wait is left asleep by it. -/
  woken : ∀ wait ∈ (after schedule).waits, isTriggeredIn (history wait.place single schedule) →
    wait.phase ≠ .asleep
  /-- Whoever polls a wait is told whether it has come. -/
  told : ∀ n wait, (after schedule).waits[n]? = some wait →
    (((after schedule).step (.poll n)).1 = .progress .pending ↔
      ¬ isTriggeredIn (history wait.place single schedule))
  /-- Whatever else happens from then on: a wait that is let go on twice is over. -/
  completes : ∀ n wait, (after schedule).waits[n]? = some wait →
    isTriggeredIn (history wait.place single schedule) →
    ∀ late : List Action, 2 ≤ late.countP (·.letsGoOn n) →
      (after (schedule ++ late)).waits[n]? = some ⟨wait.place, .ended⟩

theorem isLatching_history (schedule : List Action) (place : Nat) :
    IsLatching (history place single schedule) := by
  have hexplains := (tracks place).explains isSound_single schedule
  rw [latchAt_single] at hexplains
  exact isLatching_of_explains hexplains

theorem waitsWell (schedule : List Action) : WaitsWell schedule := by
  have hsound := isSound_after schedule
  have hlatch {place : Nat} (hcome : isTriggeredIn (history place single schedule)) :
      (after schedule).latchAt place = .triggered :=
    eq_triggered_iff.2 ((latchAt_after schedule place).trans hcome)
  constructor
  · exact fun holder place hplace => step_wait hplace
  · intro wait hwait hover
    rw [← latchAt_after, (hsound.fits wait hwait).triggered hover]
    rfl
  · intro wait hwait hcome hasleep
    cases (hlatch hcome).symm.trans ((hsound.fits wait hwait).armed hasleep)
  · intro n wait hwait
    have hsettle := Wait.progress_settle (hsound.fits wait (List.mem_of_getElem? hwait))
    rw [eq_armed_iff, latchAt_after] at hsettle
    rw [← hsettle, step, goOn_of_some hwait]
    exact ⟨Answer.progress.inj, congrArg Answer.progress⟩
  · intro n wait hwait hcome late hturns
    have hfits := hsound.fits wait (List.mem_of_getElem? hwait)
    rw [hlatch hcome] at hfits
    obtain ⟨⟨place, phase⟩, hnext, rfl, hdue⟩ := due_final hsound hwait (hlatch hcome) late
    have henough : wait.phase.due ≤ late.countP (·.letsGoOn n) :=
      Nat.le_trans (Wait.due_le_two hfits) hturns
    rw [Nat.sub_eq_zero_of_le henough] at hdue
    have hover : phase = .ended := Wait.due_eq_zero (Nat.le_zero.1 hdue)
    rw [after, Shared.final, List.foldl_append, ← hover]
    exact hnext

/-- A trigger that comes between the look of a wait and its sleep is not lost. -/
example : (after [.wait 0, .clone 0, .turn 0, .trigger 1, .turn 0, .turn 0]).waits =
    [⟨0, .ended⟩] := by decide

end Room

end RtpBridge.StopLatch
