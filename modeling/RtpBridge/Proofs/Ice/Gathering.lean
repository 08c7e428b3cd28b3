-- SUMMARY: A wait for gathering ends when the promise fires, or with the limit that it was given.
import Mathlib.Logic.Basic
import RtpBridge.Config
import RtpBridge.Ice.GatheringWait

/-!
# Waiting for gathering: laws

When a wait ends, and how, is decided by the time of the first event and by the limit alone
(`GatheringWait.verdict`, of every run by `GatheringWait.ended?_run`). A limit that was given in
milliseconds comes back in the error as it was, however large it is.
-/

namespace RtpBridge

/-! ## Durations of milliseconds -/

namespace Duration

theorem toNat_seconds_ofMillis (ms : UInt64) : (ofMillis ms).seconds.toNat = ms.toNat / 1000 :=
  UInt64.toNat_div ms 1000

theorem toMillis_ofMillis (ms : UInt64) : (ofMillis ms).toMillis = ms.toNat := by
  rw [toMillis, toNat_seconds_ofMillis, ofMillis, toNat_nanos_ofMillis]
  omega

theorem toNanos_ofMillis (ms : UInt64) : (ofMillis ms).toNanos = ms.toNat * 1000000 := by
  rw [toNanos, toNat_seconds_ofMillis, ofMillis, toNat_nanos_ofMillis]
  omega

end Duration

namespace Ice

/-- No limit of 64 bits is cut off on its way to the error. -/
theorem GatheringTimeout.ofLimit_ofMillis (ms : UInt64) : ofLimit (.ofMillis ms) = ⟨ms⟩ := by
  rw [ofLimit, Duration.toMillis_ofMillis, UInt64.ofNat_toNat]

namespace GatheringWait

variable {w : GatheringWait} {limit : Option Duration} {elapsed : Nat} {history : List Happening}

/-! ## Time -/

/-- How many nanoseconds pass. -/
def length : List Happening → Nat
  | [] => 0
  | .event _ :: rest => length rest
  | .pass nanos :: rest => nanos + length rest

/-- When the promise fires first. -/
def firstEvent? : List Happening → Option Nat
  | [] => none
  | .event _ :: _ => some 0
  | .pass nanos :: rest => (firstEvent? rest).map (nanos + ·)

/-- How a wait ought to have ended that still goes on at some time: with the first event, unless
the limit is up by then. -/
def verdict (limit : Option Duration) (elapsed : Nat) (history : List Happening) :
    Option (Nat × Except GatheringTimeout Unit) :=
  match limit, firstEvent? history with
  | none, event? => event?.map fun t => (elapsed + t, .ok ())
  | some limit, some t =>
    some (if elapsed + t < limit.toNanos then (elapsed + t, .ok ())
      else (limit.toNanos, .error (.ofLimit limit)))
  | some limit, none =>
    if limit.toNanos ≤ elapsed + length history then
      some (limit.toNanos, .error (.ofLimit limit))
    else none

/-- Time that passes before a wait looks again is not lost. -/
theorem verdict_pass (limit : Option Duration) (elapsed nanos : Nat) (rest : List Happening) :
    verdict limit elapsed (.pass nanos :: rest) = verdict limit (elapsed + nanos) rest := by
  unfold verdict
  rw [firstEvent?, length]
  cases limit with
  | none =>
    simp only [Option.map_map, Function.comp_def, Nat.add_assoc]
  | some limit => cases firstEvent? rest <;> simp only [Option.map, Nat.add_assoc]

theorem verdict_event (limit : Option Duration) (elapsed : Nat) (event : PromiseEvent)
    (rest : List Happening) (h : ∀ l ∈ limit, elapsed < l.toNanos) :
    verdict limit elapsed (.event event :: rest) = some (elapsed, .ok ()) := by
  cases limit with
  | none => rfl
  | some limit => exact congrArg some (if_pos (h limit rfl))

theorem verdict_of_due {limit : Duration} {elapsed : Nat} (h : limit.toNanos ≤ elapsed)
    (history : List Happening) :
    verdict (some limit) elapsed history = some (limit.toNanos, .error (.ofLimit limit)) := by
  unfold verdict
  cases firstEvent? history with
  | none => exact if_pos (Nat.le_add_right_of_le h)
  | some t => exact congrArg some (if_neg (Nat.not_lt.2 (Nat.le_add_right_of_le h)))

theorem verdict_nil (h : ∀ l ∈ limit, elapsed < l.toNanos) :
    verdict limit elapsed [] = none := by
  cases limit with
  | none => rfl
  | some limit => exact if_neg (Nat.not_le.2 (h limit rfl))

/-! ## Looks -/

/-- That a wait still goes on. -/
structure IsWaiting (w : GatheringWait) : Prop where
  ended : w.ended? = none
  fired : w.fired? = none
  limit : ∀ limit ∈ w.limit, w.elapsed < limit.toNanos

theorem ended?_look_of_ended {ended : Nat × Except GatheringTimeout Unit}
    (h : w.ended? = some ended) : w.look.ended? = some ended := by
  simp only [look, h]

theorem ended?_look_of_fired (hended : w.ended? = none) (hfired : w.fired?.isSome) :
    w.look.ended? = some (w.elapsed, .ok ()) := by
  obtain ⟨event, hevent⟩ := Option.isSome_iff_exists.1 hfired
  simp only [look, hended, hevent]

theorem ended?_look_of_due {limit : Duration} (hended : w.ended? = none) (hfired : w.fired? = none)
    (hlimit : w.limit = some limit) (hdue : limit.toNanos ≤ w.elapsed) :
    w.look.ended? = some (limit.toNanos, .error (.ofLimit limit)) := by
  simp only [look, hended, hfired, hlimit, if_pos hdue]

theorem IsWaiting.look_eq (h : w.IsWaiting) : w.look = w := by
  cases hlimit : w.limit with
  | none => simp only [look, h.ended, h.fired, hlimit]
  | some limit =>
    simp only [look, h.ended, h.fired, hlimit, if_neg (Nat.not_le.2 (h.limit limit hlimit))]

/-! ## Runs -/

/-- A wait that has ended stays so. -/
theorem ended?_foldl {ended : Nat × Except GatheringTimeout Unit} (h : w.ended? = some ended)
    (history : List Happening) : (history.foldl step w).ended? = some ended := by
  induction history generalizing w with
  | nil => exact h
  | cons happening rest ih =>
    cases happening with
    | event event => exact ih (ended?_look_of_ended h)
    | pass nanos => exact ih (ended?_look_of_ended h)

/-- A wait that looks for the first time, or for the first time after a while. -/
theorem ended?_foldl_look (hended : w.ended? = none) (hfired : w.fired? = none)
    (hrest : w.IsWaiting → (history.foldl step w).ended? = verdict w.limit w.elapsed history) :
    (history.foldl step w.look).ended? = verdict w.limit w.elapsed history := by
  by_cases hlimit : ∀ limit ∈ w.limit, w.elapsed < limit.toNanos
  · have hwaiting : w.IsWaiting := ⟨hended, hfired, hlimit⟩
    rw [hwaiting.look_eq]
    exact hrest hwaiting
  · simp only [not_forall, Nat.not_lt] at hlimit
    obtain ⟨limit, hsome, hdue⟩ := hlimit
    rw [Option.mem_def] at hsome
    rw [ended?_foldl (ended?_look_of_due hended hfired hsome hdue), hsome, verdict_of_due hdue]

theorem IsWaiting.ended?_foldl (h : w.IsWaiting) (history : List Happening) :
    (history.foldl step w).ended? = verdict w.limit w.elapsed history := by
  induction history generalizing w with
  | nil => exact h.ended.trans (verdict_nil h.limit).symm
  | cons happening rest ih =>
    cases happening with
    | event event =>
      have hfires : (w.step (.event event)).ended? = some (w.elapsed, .ok ()) := by
        refine ended?_look_of_fired ?_ ?_
        · exact h.ended
        · exact Option.isSome_or.trans (Bool.or_true _)
      rw [verdict_event w.limit w.elapsed event rest h.limit]
      exact GatheringWait.ended?_foldl hfires rest
    | pass nanos =>
      -- The look may find the limit up, and otherwise the wait goes on at the later time.
      rw [verdict_pass]
      exact ended?_foldl_look h.ended h.fired ih

/-- A promise that has fired already ends the wait at once. -/
theorem ended?_run (limit : Option Duration) (fired? : Option PromiseEvent)
    (history : List Happening) : (run limit fired? history).ended? =
      if fired?.isSome then some (0, .ok ()) else verdict limit 0 history := by
  cases hfired : fired? with
  | some event => exact ended?_foldl (ended?_look_of_fired rfl rfl) history
  | none => exact ended?_foldl_look rfl rfl fun h => h.ended?_foldl history

/-! ## Settings of milliseconds -/

theorem verdict_ofMillis_of_some (ms : UInt64) {t : Nat} (h : firstEvent? history = some t) :
    verdict (some (.ofMillis ms)) 0 history =
      some (if t < ms.toNat * 1000000 then (t, .ok ())
        else (ms.toNat * 1000000, .error ⟨ms⟩)) := by
  simp only [verdict, h, Duration.toNanos_ofMillis, GatheringTimeout.ofLimit_ofMillis,
    Nat.zero_add]

theorem verdict_ofMillis_of_none (ms : UInt64) (h : firstEvent? history = none) :
    verdict (some (.ofMillis ms)) 0 history =
      if ms.toNat * 1000000 ≤ length history then some (ms.toNat * 1000000, .error ⟨ms⟩)
      else none := by
  simp only [verdict, h, Duration.toNanos_ofMillis, GatheringTimeout.ofLimit_ofMillis,
    Nat.zero_add]

/-- When the promise has fired first, which may have been before the wait. -/
def fires? (fired? : Option PromiseEvent) (history : List Happening) : Option Nat :=
  if fired?.isSome then some 0 else firstEvent? history

/-- That a wait without a limit ends just when the promise fires, however it does so, and that one
with a limit ends so if that is before the limit is up, and with an error that tells the limit if
it is not fired until then. -/
structure EndsInTime (config : Config) (fired? : Option PromiseEvent) (history : List Happening) :
    Prop where
  unlimited : config.gatheringTimeout = none →
    (run config.gatheringLimit fired? history).ended? =
      (fires? fired? history).map fun t => (t, .ok ())
  fires : ∀ ms t, config.gatheringTimeout = some ms → fires? fired? history = some t →
    fired?.isSome ∨ t < ms.toNat * 1000000 →
    (run config.gatheringLimit fired? history).ended? = some (t, .ok ())
  timesOut : ∀ ms, config.gatheringTimeout = some ms →
    (∀ t ∈ fires? fired? history, ms.toNat * 1000000 < t) →
    (run config.gatheringLimit fired? history).ended? =
      if ms.toNat * 1000000 ≤ length history then some (ms.toNat * 1000000, .error ⟨ms⟩) else none

theorem firstEvent?_le_length {t : Nat} (h : firstEvent? history = some t) : t ≤ length history := by
  induction history generalizing t with
  | nil => cases h
  | cons happening rest ih =>
    cases happening with
    | event event =>
      cases h
      exact Nat.zero_le _
    | pass nanos =>
      obtain ⟨later, hlater, rfl⟩ := Option.map_eq_some_iff.1 h
      exact Nat.add_le_add_left (ih hlater) nanos

theorem endsInTime (config : Config) (fired? : Option PromiseEvent) (history : List Happening) :
    EndsInTime config fired? history := by
  constructor
  · intro hnone
    rw [ended?_run, Config.gatheringLimit, hnone, fires?]
    split
    · rfl
    · simp only [verdict, Option.map_none, Nat.zero_add]
  · intro ms t hsome hfires hearly
    rw [ended?_run, Config.gatheringLimit, hsome]
    cases hfired : fired?.isSome with
    | true =>
      rw [fires?, hfired] at hfires
      cases hfires
      rfl
    | false =>
      rw [fires?, hfired] at hfires
      have ht : t < ms.toNat * 1000000 :=
        hearly.resolve_left fun htrue => Bool.false_ne_true (hfired.symm.trans htrue)
      exact (verdict_ofMillis_of_some ms hfires).trans (congrArg some (if_pos ht))
  · intro ms hsome hlate
    rw [ended?_run, Config.gatheringLimit, hsome]
    unfold fires? at hlate
    cases hfired : fired?.isSome with
    | true =>
      rw [hfired] at hlate
      exact absurd (hlate 0 rfl) (Nat.not_lt_zero _)
    | false =>
      rw [hfired] at hlate
      cases hfirst : firstEvent? history with
      | none => exact verdict_ofMillis_of_none ms hfirst
      | some t =>
        have ht : ms.toNat * 1000000 < t := hlate t hfirst
        have hlength : ms.toNat * 1000000 ≤ length history :=
          Nat.le_trans (Nat.le_of_lt ht) (firstEvent?_le_length hfirst)
        rw [if_pos hlength]
        exact (verdict_ofMillis_of_some ms hfirst).trans
          (congrArg some (if_neg (Nat.lt_asymm ht)))

/-! ## Promises -/

/-- What a wait makes of a promise, once its limit is up, is what it makes of it as time passes. -/
theorem waited_run (limit : Option UInt64) (promise : Promise) {horizon : Nat}
    (h : ∀ ms ∈ limit, ms.toNat * 1000000 ≤ horizon) :
    (run (limit.map .ofMillis) promise.fired? (promise.history horizon)).waited =
      promise.wait limit := by
  unfold waited
  rw [ended?_run]
  cases promise with
  | fired event => rfl
  | fires event after =>
    cases limit with
    | none => rfl
    | some ms =>
      have hfirst : firstEvent? (Promise.history horizon (.fires event after)) =
          some (after * 1000000) := by
        simp only [Promise.history, firstEvent?, Option.map_some, Nat.add_zero]
      have hsame : after * 1000000 < ms.toNat * 1000000 ↔ after < ms.toNat :=
        Nat.mul_lt_mul_right (by decide)
      simp only [Option.map_some, Promise.fired?, Option.isSome_none, if_false,
        Bool.false_eq_true, verdict_ofMillis_of_some ms hfirst, hsame, Promise.wait]
      by_cases hearly : after < ms.toNat
      · simp only [if_pos hearly]
      · simp only [if_neg hearly]
  | never =>
    cases limit with
    | none => rfl
    | some ms =>
      have hfirst : firstEvent? (Promise.history horizon .never) = none := rfl
      have hdue : ms.toNat * 1000000 ≤ length (Promise.history horizon .never) := by
        simp only [Promise.history, length, Nat.add_zero]
        exact h ms rfl
      simp only [Option.map_some, Promise.fired?, Option.isSome_none, if_false,
        Bool.false_eq_true, verdict_ofMillis_of_none ms hfirst, if_pos hdue, Promise.wait]

/-- A nanosecond decides, and a sender that has gone counts as a message does. -/
example : (run (some (.ofMillis 30)) none [.pass 29999999, .event .senderDropped]).ended? =
    some (29999999, .ok ()) := rfl

end GatheringWait

theorem Promise.limit_of_timedOut {limit : Option UInt64} {promise : Promise}
    {fault : GatheringTimeout} (h : promise.wait limit = .timedOut fault) :
    limit = some fault.limit := by
  cases limit with
  | none => cases promise <;> cases h
  | some ms =>
    cases promise with
    | fired => cases h
    | never =>
      cases h
      rfl
    | fires event after =>
      simp only [wait] at h
      split at h
      · cases h
      · cases h
        rfl

end Ice

end RtpBridge
