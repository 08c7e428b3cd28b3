-- SUMMARY: What a step of a forward pump can do, how it can end, and that a closing one does end.
import RtpBridge.Relay.ForwardPump

/-!
# Forward pumps: laws

A pump that has ended takes no step. What a step reads it writes (`reads_of_moves`). An end tells
how it came about: a pump that returns never says that its task has died, and a task only dies of
a write that panicked (`truthful_of_moves`). Once the close flag is up a pump ends by itself
(`ending?_settle`).
-/

namespace RtpBridge

/-- What is written of an arrival: a datagram, cut to the size of the buffer. -/
def Arrival.sample? : Arrival → Option (List UInt8)
  | .datagram octets => some (octets.take ForwardPump.maxDatagram)
  | .fault _ => none

/-- The samples of arrivals, in their order. -/
def samples (arrivals : List Arrival) : List (List UInt8) := arrivals.filterMap (·.sample?)

theorem samples_append (first rest : List Arrival) :
    samples (first ++ rest) = samples first ++ samples rest := List.filterMap_append

theorem samples_map_datagram (datagrams : List (List UInt8)) :
    samples (datagrams.map .datagram) = datagrams.map (·.take ForwardPump.maxDatagram) := by
  rw [samples, List.filterMap_map, ← List.filterMap_eq_map]
  rfl

namespace ForwardPump

variable {sink : Sink} {isClosing : Bool} {p q : ForwardPump} {queue rest : List Arrival}
  {ending : TaskEnd}

/-! ## Ends -/

theorem ending?_eq_some : p.ending? = some ending ↔ p.phase = .ended ending := by
  unfold ending?
  split
  · next h => rw [h, Option.some.injEq, Phase.ended.injEq]
  · next h => exact ⟨nofun, fun he => absurd he (h ending)⟩

theorem ending?_eq_none : p.ending? = none ↔ ∀ ending, p.phase ≠ .ended ending := by
  simp only [Option.eq_none_iff_forall_ne_some, ne_eq, ending?_eq_some]

theorem hasFailed_iff :
    p.hasFailed ↔ ∃ fault, p.ending? = some (.returned (.failed fault)) := by
  simp only [ending?_eq_some]
  unfold hasFailed
  split
  · next fault h => exact ⟨fun _ => ⟨fault, h⟩, fun _ => rfl⟩
  · next h => exact ⟨nofun, fun ⟨fault, hf⟩ => absurd hf (h fault)⟩

theorem ending?_finish (exit : PumpExit) : (p.finish exit).ending? = some (.returned exit) := rfl

theorem ending?_die : p.die.ending? = some .died := rfl

/-- That an end can have come about with the track's answers. -/
def Truthful (sink : Sink) : TaskEnd → Prop
  | .returned exit => exit ≠ .failed .taskDied
  | .died => ∃ n sample, sink n sample = .panicked

/-! ## Steps -/

/-- Everything that a step can do to a pump and its queue. -/
inductive Moves (sink : Sink) (isClosing : Bool) (p : ForwardPump) :
    List Arrival → ForwardPump → List Arrival → Prop where
  | seeClose {queue : List Arrival} (hp : p.phase = .listening) (hclosing : isClosing) :
      Moves sink isClosing p queue { p with phase := .draining maxDrained } queue
  | forward {octets : List UInt8} {rest : List Arrival} (hp : p.phase = .listening)
      (hclosing : isClosing = false) :
      Moves sink isClosing p (.datagram octets :: rest) (p.forward sink octets .listening) rest
  | fail {cause : String} {rest : List Arrival} (hp : p.phase = .listening)
      (hclosing : isClosing = false) :
      Moves sink isClosing p (.fault cause :: rest)
        (p.finish (.failed (.socketRead p.kind cause))) rest
  | drain {left : Nat} {octets : List UInt8} {rest : List Arrival}
      (hp : p.phase = .draining (left + 1)) :
      Moves sink isClosing p (.datagram octets :: rest) (p.forward sink octets (.draining left))
        rest
  | reachBound {queue : List Arrival} (hp : p.phase = .draining 0) :
      Moves sink isClosing p queue (p.finish .closed) queue
  | runDry {left : Nat} (hp : p.phase = .draining (left + 1)) :
      Moves sink isClosing p [] (p.finish .closed) []
  | breakOff {left : Nat} {cause : String} {rest : List Arrival}
      (hp : p.phase = .draining (left + 1)) :
      Moves sink isClosing p (.fault cause :: rest) (p.stopDraining cause) rest

theorem moves_of_step? (h : p.step? sink isClosing queue = some (q, rest)) :
    Moves sink isClosing p queue q rest := by
  unfold step? at h
  split at h
  · cases h
  · next hp =>
    split at h
    · next hclosing =>
      cases h
      exact .seeClose hp hclosing
    · next hclosing =>
      split at h
      · cases h
      · cases h
        exact .forward hp (Bool.eq_false_iff.2 hclosing)
      · cases h
        exact .fail hp (Bool.eq_false_iff.2 hclosing)
  · next hp =>
    cases h
    exact .reachBound hp
  · next hp =>
    split at h
    · cases h
      exact .runDry hp
    · cases h
      exact .drain hp
    · cases h
      exact .breakOff hp

theorem step?_of_ended (h : p.ending? = some ending) : p.step? sink isClosing queue = none := by
  simp only [step?, ending?_eq_some.1 h]

theorem ending?_of_moves (h : Moves sink isClosing p queue q rest) : p.ending? = none := by
  refine ending?_eq_none.2 fun ending hended => ?_
  cases h <;> simp_all

theorem written_forward (sink : Sink) (datagram : List UInt8) (next : Phase) (p : ForwardPump) :
    (p.forward sink datagram next).written = p.written ++ [datagram.take maxDatagram] := by
  simp only [forward]
  split <;> rfl

/-- What a step takes from the queue it writes, whatever the track answers. -/
theorem reads_of_moves (h : Moves sink isClosing p queue q rest) :
    ∃ read, queue = read ++ rest ∧ q.written = p.written ++ samples read := by
  cases h with
  | seeClose | reachBound | runDry => exact ⟨[], rfl, (List.append_nil _).symm⟩
  | forward | drain => exact ⟨[.datagram _], rfl, written_forward ..⟩
  | fail | breakOff => exact ⟨[.fault _], rfl, (List.append_nil _).symm⟩

theorem forward_of_accepted (haccepts : ∀ n sample, sink n sample = .accepted)
    (datagram : List UInt8) (next : Phase) (p : ForwardPump) :
    p.forward sink datagram next =
      { p with
        written := p.written ++ [datagram.take maxDatagram]
        phase := next
        forwarded := p.forwarded + 1 } := by
  simp only [forward, haccepts]

/-- Forwarding a datagram goes on to the next phase, or ends the pump as the track answered. -/
theorem forward_cases (sink : Sink) (datagram : List UInt8) (next : Phase) (p : ForwardPump) :
    (p.forward sink datagram next).phase = next ∨
      ∃ ending, (p.forward sink datagram next).ending? = some ending ∧ Truthful sink ending := by
  simp only [forward]
  split
  · exact .inl rfl
  · exact .inr ⟨_, ending?_finish _, by simp [Truthful]⟩
  · exact .inr ⟨_, ending?_finish _, by simp [Truthful]⟩
  · next h => exact .inr ⟨_, ending?_die, _, _, h⟩

theorem truthful_of_forward {datagram : List UInt8} {next : Phase}
    (h : (p.forward sink datagram next).ending? = some ending)
    (hnext : ∀ ending, next ≠ .ended ending) : Truthful sink ending := by
  rcases forward_cases sink datagram next p with hphase | ⟨ending', hending, htrue⟩
  · rw [ending?_eq_some, hphase] at h
    exact absurd h (hnext ending)
  · rw [hending] at h
    cases h
    exact htrue

theorem truthful_of_moves (hmoves : Moves sink isClosing p queue q rest)
    (h : q.ending? = some ending) : Truthful sink ending := by
  cases hmoves with
  | seeClose => cases h
  | forward => exact truthful_of_forward h fun _ => nofun
  | drain => exact truthful_of_forward h fun _ => nofun
  | fail | reachBound | runDry | breakOff =>
    cases h
    simp [Truthful]

/-! ## Closing -/

/-- So many more steps a pump takes at most, once its close flag is up. -/
def Phase.stepsLeft : Phase → Nat
  | .listening => maxDrained + 2
  | .draining left => left + 1
  | .ended _ => 0

/-- So many more datagrams a pump forwards at most, once its close flag is up. -/
def Phase.left : Phase → Nat
  | .listening => maxDrained
  | .draining left => left
  | .ended _ => 0

theorem ending?_of_stepsLeft (h : p.phase.stepsLeft = 0) : ∃ ending, p.ending? = some ending := by
  unfold Phase.stepsLeft at h
  split at h
  · exact absurd h (Nat.succ_ne_zero _)
  · exact absurd h (Nat.succ_ne_zero _)
  · next ending hp => exact ⟨ending, ending?_eq_some.2 hp⟩

theorem stepsLeft_forward (sink : Sink) (datagram : List UInt8) (left : Nat) (p : ForwardPump) :
    (p.forward sink datagram (.draining left)).phase.stepsLeft ≤ left + 1 := by
  rcases forward_cases sink datagram (.draining left) p with hphase | ⟨ending, hending, -⟩
  · rw [hphase]
    exact Nat.le_refl _
  · rw [ending?_eq_some.1 hending]
    exact Nat.zero_le _

/-- With each step a closing pump comes nearer to its end. -/
theorem stepsLeft_of_moves (h : Moves sink true p queue q rest) :
    q.phase.stepsLeft ≤ p.phase.stepsLeft - 1 := by
  cases h with
  | seeClose hp => exact Nat.le_of_eq (by rw [hp]; rfl)
  | forward _ hclosing => cases hclosing
  | fail _ hclosing => cases hclosing
  | drain hp =>
    rw [hp]
    exact stepsLeft_forward ..
  | reachBound | runDry | breakOff => exact Nat.zero_le _

/-- A closing pump never has to wait. -/
theorem stepsLeft_of_step?_eq_none (h : p.step? sink true queue = none) :
    p.phase.stepsLeft = 0 := by
  unfold step? at h
  split at h
  · next hp => rw [hp]; rfl
  · cases h
  · cases h
  · split at h <;> cases h

/-! ## Settling -/

theorem settle_of_ended (h : p.ending? = some ending) :
    p.settle sink isClosing queue = (p, queue) := by
  rw [settle, steps, step?_of_ended h]

/-- A draining pump takes a datagram with each step, so it has ended when the queue is empty. -/
theorem ending?_steps_of_draining {left count : Nat} (hp : p.phase = .draining left)
    (hcount : queue.length < count) :
    (steps sink isClosing count p queue).1.ending?.isSome := by
  induction count generalizing p queue left with
  | zero => exact absurd hcount (Nat.not_lt_zero _)
  | succ count ih =>
    have hended {q : ForwardPump} {rest : List Arrival} (h : q.ending?.isSome) :
        (steps sink isClosing count q rest).1.ending?.isSome := by
      obtain ⟨ending, hq⟩ := Option.isSome_iff_exists.1 h
      cases count with
      | zero => exact h
      | succ count =>
        rw [steps, step?_of_ended hq]
        exact h
    simp only [steps, step?, hp]
    cases left with
    | zero => exact hended rfl
    | succ left =>
      match queue, hcount with
      | [], _ => exact hended rfl
      | .datagram octets :: rest, hcount =>
        rcases forward_cases sink octets (.draining left) p with hphase | ⟨ending, hending, -⟩
        · exact ih hphase (Nat.lt_of_succ_lt_succ hcount)
        · exact hended (Option.isSome_iff_exists.2 ⟨ending, hending⟩)
      | .fault cause :: rest, _ => exact hended rfl

/-- Once the close flag is up, a pump that runs on ends. -/
theorem ending?_settle (p : ForwardPump) (sink : Sink) (queue : List Arrival) :
    (p.settle sink true queue).1.ending?.isSome := by
  cases hp : p.phase with
  | ended ending =>
    have hending := ending?_eq_some.2 hp
    rw [settle_of_ended hending, hending]
    rfl
  | draining left =>
    exact ending?_steps_of_draining hp (Nat.lt_add_of_pos_right Nat.two_pos)
  | listening =>
    simp only [settle, steps, step?, hp, if_true]
    have hdraining : { p with phase := .draining maxDrained }.phase = .draining maxDrained := rfl
    exact ending?_steps_of_draining hdraining (Nat.lt_succ_self _)

end ForwardPump

end RtpBridge
