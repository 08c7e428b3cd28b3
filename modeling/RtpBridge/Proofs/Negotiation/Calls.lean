-- SUMMARY: Of all signaling calls the first one takes the session through its exchange, and no other does anything.
import RtpBridge.Proofs.Negotiation.Exchange

/-!
# Signaling calls: laws

The call that comes first finds the signaling state as it was created and takes it along; from
then on the state tells any other call that it is too late (`Calls.Orderly`, kept by every step).
So a session is signaled once (`Calls.SignalsOnce`, of every run by `Calls.signalsOnce_run`).
-/

namespace RtpBridge.Negotiation.Calls

variable {c : Calls} {limit : Option UInt64} {call : Call} {transport : Transport} {k : Nat}

/-! ## Steps -/

theorem enter_of_created (h : c.state = .created) (transport : Transport) :
    c.enter transport =
      { c with state := .remoteApplied, calls := c.calls ++ [⟨transport, .applyingRemote⟩] } := by
  simp only [enter, view, Exchange.begin?, h, if_true]

/-- A call that comes too late learns the state, and all else stays as it is. -/
theorem enter_of_ne_created (h : c.state ≠ .created) (transport : Transport) :
    c.enter transport =
      { c with calls := c.calls ++
          [⟨transport, .returned (.error (.negotiation (.alreadySignaled c.state)))⟩] } := by
  simp only [enter, view, Exchange.begin?, h, if_false]

theorem proceed_of_getElem? (h : c.calls[k]? = some call) :
    c.proceed k = { c with
      state := ((c.view call.stage).advance call.transport c.limit).state
      log := ((c.view call.stage).advance call.transport c.limit).log
      calls := c.calls.set k
        { call with stage := ((c.view call.stage).advance call.transport c.limit).stage }
      requests := c.requests ++ call.stage.request?.toList.map (k, ·) } := by
  simp only [proceed, h]

/-- A call that has returned does nothing more. -/
theorem proceed_of_returned {result : Except Error Answer} (h : c.calls[k]? = some call)
    (hreturned : call.stage = .returned result) : c.proceed k = c := by
  obtain ⟨transport, stage⟩ := call
  obtain rfl := hreturned
  obtain ⟨hk, hget⟩ := List.getElem?_eq_some_iff.1 h
  rw [proceed_of_getElem? h]
  simp only [Exchange.advance, view, Stage.request?, Option.toList_none, List.map_nil,
    List.append_nil, ← hget, List.set_getElem_self]

theorem view_proceed (h : c.calls[k]? = some call) :
    (c.proceed k).view ((c.view call.stage).advance call.transport c.limit).stage =
      (c.view call.stage).advance call.transport c.limit := by
  have hsession := Exchange.session_advance (c.view call.stage) call.transport c.limit
  rw [proceed_of_getElem? h]
  generalize (c.view call.stage).advance call.transport c.limit = after at hsession ⊢
  cases after
  cases hsession
  rfl

/-- With what answers of the transport a call comes, if the action is a call. -/
def Action.transport? : Action → Option Transport
  | .call transport => some transport
  | .proceed _ => none

theorem transports_enter (c : Calls) (transport : Transport) :
    (c.enter transport).calls.map (·.transport) = c.calls.map (·.transport) ++ [transport] := by
  by_cases hcreated : c.state = .created
  · rw [enter_of_created hcreated, List.map_append]
    rfl
  · rw [enter_of_ne_created hcreated, List.map_append]
    rfl

theorem transports_proceed (c : Calls) (k : Nat) :
    (c.proceed k).calls.map (·.transport) = c.calls.map (·.transport) := by
  cases hcall : c.calls[k]? with
  | none => simp only [proceed, hcall]
  | some call =>
    obtain ⟨hk, rfl⟩ := List.getElem?_eq_some_iff.1 hcall
    have hsame : (c.calls.set k c.calls[k]).map (·.transport) = c.calls.map (·.transport) := by
      rw [List.set_getElem_self]
    rw [List.map_set] at hsame
    rw [proceed_of_getElem? hcall, List.map_set]
    exact hsame

/-- Each call is recorded with its own offer, whether it begins the exchange or is turned away. -/
theorem transports_run (c : Calls) (schedule : List Action) :
    (c.run schedule).calls.map (·.transport) =
      c.calls.map (·.transport) ++ schedule.filterMap Action.transport? := by
  induction schedule generalizing c with
  | nil => exact (List.append_nil _).symm
  | cons action rest ih =>
    refine (ih (c.step action)).trans ?_
    cases action with
    | call transport =>
      rw [step, transports_enter, List.append_assoc]
      rfl
    | proceed k =>
      rw [step, transports_proceed]
      rfl

/-- As long as a call is alone it goes through the exchange as `Exchange.run` does. -/
theorem view_run_alone (h : c.calls = [call]) (count : Nat) :
    ∃ stage, (c.run (List.replicate count (.proceed 0))).calls = [⟨call.transport, stage⟩] ∧
      (c.run (List.replicate count (.proceed 0))).view stage =
        (c.view call.stage).run call.transport c.limit (List.replicate count .advance) := by
  induction count generalizing c call with
  | zero => exact ⟨call.stage, h, rfl⟩
  | succ count ih =>
    have hcall : c.calls[0]? = some call := by rw [h]; rfl
    have halone : (c.proceed 0).calls =
        [⟨call.transport, ((c.view call.stage).advance call.transport c.limit).stage⟩] := by
      rw [proceed_of_getElem? hcall, h, List.set_cons_zero]
    obtain ⟨stage, hcalls, hview⟩ := ih halone
    refine ⟨stage, hcalls, hview.trans ?_⟩
    rw [view_proceed hcall, proceed_of_getElem? hcall]
    rfl

/-! ## Order among the calls -/

/-- That the first call has the exchange to itself: its stage goes with the state, all requests are
its own, and whoever came later was turned away. -/
structure Orderly (limit : Option UInt64) (c : Calls) : Prop where
  limit_eq : c.limit = limit
  created : c.calls = [] → c.state = .created
  first : ∀ call, c.calls[0]? = some call → call.transport.Stands limit call.stage c.state
  asks : ∀ call, c.calls[0]? = some call →
    call.stage = .applyingRemote ∨ (0, .applyRemote) ∈ c.requests
  turnedAway : ∀ (k : Nat) (call : Call), 0 < k → c.calls[k]? = some call →
    ∃ state, call.stage = .returned (.error (.negotiation (.alreadySignaled state)))
  requests : ∀ request ∈ c.requests, request.1 = 0

theorem orderly_new (session : String) (limit : Option UInt64) :
    (new session limit).Orderly limit := by
  have hnone (k : Nat) (call : Call) : (new session limit).calls[k]? ≠ some call := by simp [new]
  exact ⟨rfl, fun _ => rfl, fun call h => absurd h (hnone 0 call),
    fun call h => absurd h (hnone 0 call), fun k call _ h => absurd h (hnone k call), nofun⟩

theorem Orderly.ne_created (h : c.Orderly limit) (hcalls : c.calls ≠ []) :
    c.state ≠ .created := by
  obtain ⟨call, rest, hcons⟩ := List.exists_cons_of_ne_nil hcalls
  exact (h.first call (by rw [hcons]; rfl)).ne_created

theorem Orderly.enter (h : c.Orderly limit) (transport : Transport) :
    (c.enter transport).Orderly limit := by
  by_cases hcalls : c.calls = []
  · rw [enter_of_created (h.created hcalls), hcalls]
    refine ⟨h.limit_eq, nofun, ?_, ?_, ?_, h.requests⟩
    · rintro call ⟨⟩
      exact .applyingRemote
    · rintro call ⟨⟩
      exact .inl rfl
    · rintro (_ | k) call hk hcall
      · exact absurd hk (Nat.lt_irrefl 0)
      · cases hcall
  · rw [enter_of_ne_created (h.ne_created hcalls)]
    have hpos : 0 < c.calls.length := List.length_pos_iff.2 hcalls
    have hfirst (call : Call) : (c.calls ++ [call])[0]? = c.calls[0]? :=
      List.getElem?_append_left hpos
    refine ⟨h.limit_eq, fun hnil => absurd hnil (by simp), ?_, ?_, ?_, h.requests⟩
    · intro call hcall
      rw [hfirst] at hcall
      exact h.first call hcall
    · intro call hcall
      rw [hfirst] at hcall
      exact h.asks call hcall
    · intro k call hk hcall
      rw [List.getElem?_append] at hcall
      split at hcall
      · exact h.turnedAway k call hk hcall
      · rw [List.getElem?_singleton] at hcall
        split at hcall
        · cases hcall
          exact ⟨_, rfl⟩
        · cases hcall

/-- Only the first call takes steps that do something. -/
theorem Orderly.proceed_of_pos (h : c.Orderly limit) (hk : 0 < k) : c.proceed k = c := by
  cases hcall : c.calls[k]? with
  | none => simp only [proceed, hcall]
  | some call =>
    obtain ⟨state, hreturned⟩ := h.turnedAway k call hk hcall
    exact proceed_of_returned hcall hreturned

theorem Orderly.stands (h : c.Orderly limit) (hcall : c.calls[0]? = some call) :
    call.transport.Stands c.limit (c.view call.stage).stage (c.view call.stage).state :=
  h.limit_eq ▸ h.first call hcall

theorem getElem?_proceed (h : c.calls[0]? = some call) :
    (c.proceed 0).calls[0]? = some
      { call with stage := ((c.view call.stage).advance call.transport c.limit).stage } := by
  rw [proceed_of_getElem? h]
  exact List.getElem?_set_self (List.getElem?_eq_some_iff.1 h).1

theorem Orderly.proceed (h : c.Orderly limit) (k : Nat) : (c.proceed k).Orderly limit := by
  rcases Nat.eq_zero_or_pos k with rfl | hk
  · cases hcall : c.calls[0]? with
    | none =>
      simp only [Calls.proceed, hcall]
      exact h
    | some call =>
      have hafter := getElem?_proceed hcall
      rw [proceed_of_getElem? hcall] at hafter ⊢
      refine ⟨h.limit_eq, fun hnil => ?_, fun next hnext => ?_, fun _ _ => .inr ?_, ?_, ?_⟩
      · rw [hnil] at hafter
        cases hafter
      · cases hafter.symm.trans hnext
        rw [← h.limit_eq]
        exact (h.stands hcall).advance.1
      · rcases h.asks call hcall with hstage | hasked
        · simp [hstage, Stage.request?]
        · exact List.mem_append_left _ hasked
      · intro k other hk hother
        rw [List.getElem?_set_ne (Nat.ne_of_lt hk)] at hother
        exact h.turnedAway k other hk hother
      · intro request hrequest
        rcases List.mem_append.1 hrequest with hrequest | hrequest
        · exact h.requests request hrequest
        · obtain ⟨_, -, rfl⟩ := List.mem_map.1 hrequest
          rfl
  · rwa [h.proceed_of_pos hk]

theorem Orderly.step (h : c.Orderly limit) (action : Action) : (c.step action).Orderly limit := by
  cases action with
  | call transport => exact h.enter transport
  | proceed k => exact h.proceed k

theorem Orderly.run (h : c.Orderly limit) (schedule : List Action) :
    (c.run schedule).Orderly limit := by
  induction schedule generalizing c with
  | nil => exact h
  | cons action rest ih => exact ih (h.step action)

/-- Whatever call takes a step, the state stays as it is or goes along an edge. -/
theorem Orderly.moves (h : c.Orderly limit) (action : Action) :
    (c.step action).state = c.state ∨ c.state.Moves (c.step action).state := by
  cases action with
  | call transport =>
    by_cases hcreated : c.state = .created
    · rw [Calls.step, enter_of_created hcreated, hcreated]
      exact .inr .begin
    · rw [Calls.step, enter_of_ne_created hcreated]
      exact .inl rfl
  | proceed k =>
    rcases Nat.eq_zero_or_pos k with rfl | hk
    · cases hcall : c.calls[0]? with
      | none =>
        simp only [Calls.step, Calls.proceed, hcall, true_or]
      | some call =>
        rw [Calls.step, proceed_of_getElem? hcall]
        exact (h.stands hcall).advance.2
    · rw [Calls.step, h.proceed_of_pos hk]
      exact .inl rfl

/-! ## The first call returns -/

theorem getElem?_enter (h : c.calls[k]? = some call) (transport : Transport) :
    (c.enter transport).calls[k]? = some call := by
  have hk := (List.getElem?_eq_some_iff.1 h).1
  by_cases hcreated : c.state = .created
  · rw [enter_of_created hcreated, List.getElem?_append_left hk, h]
  · rw [enter_of_ne_created hcreated, List.getElem?_append_left hk, h]

/-- Other calls leave the first one where it is, and its own steps bring it nearer to its end. -/
theorem Orderly.stepsLeft_step (h : c.Orderly limit) (hcall : c.calls[0]? = some call)
    (hwait : call.transport.promise.wait limit ≠ .waitsForever) (action : Action) :
    ∃ stage, (c.step action).calls[0]? = some ⟨call.transport, stage⟩ ∧
      stage.stepsLeft ≤ call.stage.stepsLeft - [action].countP (·.isStepOf 0) := by
  cases action with
  | call transport => exact ⟨call.stage, getElem?_enter hcall transport, Nat.le_refl _⟩
  | proceed k =>
    rcases Nat.eq_zero_or_pos k with rfl | hk
    · refine ⟨_, getElem?_proceed hcall, ?_⟩
      exact (c.view call.stage).stepsLeft_advance (h.limit_eq ▸ hwait)
    · refine ⟨call.stage, ?_, Nat.le_of_eq ?_⟩
      · rw [Calls.step, h.proceed_of_pos hk, hcall]
      · have hne : ¬ Action.isStepOf 0 (.proceed k) := by simp [Action.isStepOf, Nat.ne_of_gt hk]
        rw [List.countP_cons_of_neg hne, List.countP_nil, Nat.sub_zero]

theorem Orderly.stepsLeft_run (h : c.Orderly limit) (hcall : c.calls[0]? = some call)
    (hwait : call.transport.promise.wait limit ≠ .waitsForever) (later : List Action) :
    ∃ stage, (c.run later).calls[0]? = some ⟨call.transport, stage⟩ ∧
      stage.stepsLeft ≤ call.stage.stepsLeft - later.countP (·.isStepOf 0) := by
  induction later generalizing c call with
  | nil => exact ⟨call.stage, hcall, Nat.le_refl _⟩
  | cons action rest ih =>
    obtain ⟨stage, hstep, hleft⟩ := h.stepsLeft_step hcall hwait action
    obtain ⟨last, hlast, hrest⟩ := ih (h.step action) hstep hwait
    refine ⟨last, hlast, ?_⟩
    rw [List.countP_singleton] at hleft
    rw [List.countP_cons]
    simp only at hrest
    omega

/-! ## One exchange -/

/-- That a session is signaled once and comes to a definite end, under a schedule that has led to
these calls. -/
structure SignalsOnce (limit : Option UInt64) (schedule : List Action) (c : Calls) : Prop where
  /-- Every call is recorded, in the order in which they came and with its own offer. -/
  recorded : c.calls.map (·.transport) = schedule.filterMap Action.transport?
  /-- One that finds the session as it was created begins the exchange with its offer. -/
  begins : c.state = .created → ∀ transport, c.enter transport =
    { c with state := .remoteApplied, calls := c.calls ++ [⟨transport, .applyingRemote⟩] }
  /-- Before the first call the state is that of a new session. -/
  created : c.calls = [] → c.state = .created
  /-- Whatever call takes the next step, the state goes along its edges only. -/
  moves : ∀ action, (c.step action).state = c.state ∨ c.state.Moves (c.step action).state
  /-- A state that is final is never left. -/
  final : c.state = .complete ∨ c.state = .failed → ∀ action, (c.step action).state = c.state
  /-- The first call asks the transport, and no other does. -/
  asks : ∀ call, c.calls[0]? = some call →
    call.stage = .applyingRemote ∨ (0, .applyRemote) ∈ c.requests
  requests : ∀ request ∈ c.requests, request.1 = 0
  /-- Every other call is turned away. -/
  turnedAway : ∀ (k : Nat) (call : Call), 0 < k → c.calls[k]? = some call →
    ∃ state, call.stage = .returned (.error (.negotiation (.alreadySignaled state)))
  /-- It changes nothing, neither when it comes nor later. -/
  changesNothing : c.calls ≠ [] →
    (∀ transport, c.enter transport = { c with calls := c.calls ++
      [⟨transport, .returned (.error (.negotiation (.alreadySignaled c.state)))⟩] }) ∧
    ∀ k, 0 < k → c.proceed k = c
  /-- The first call returns what the transport makes of its offer, and the state tells which. -/
  returned : ∀ (call : Call) (result : Except Error Answer), c.calls[0]? = some call →
    call.stage = .returned result → call.transport.Ends limit result ∧
      (c.state = .complete ↔ ∃ answer, result = .ok answer) ∧
      (c.state = .failed ↔ ∃ error, result = .error error)
  /-- It does return, if the wait for gathering has an end. -/
  returns : ∀ (call : Call) (later : List Action), c.calls[0]? = some call →
    call.transport.promise.wait limit ≠ .waitsForever → 7 ≤ later.countP (·.isStepOf 0) →
    ∃ result, (c.run later).calls[0]? = some ⟨call.transport, .returned result⟩

/-- However signaling calls come and go on, and whatever the transport answers to each, the session
is signaled once. -/
theorem signalsOnce_run (session : String) (limit : Option UInt64) (schedule : List Action) :
    ((new session limit).run schedule).SignalsOnce limit schedule := by
  have h := (orderly_new session limit).run schedule
  have hrecorded := transports_run (new session limit) schedule
  generalize (new session limit).run schedule = c at h hrecorded
  refine ⟨hrecorded, enter_of_created, h.created, h.moves, ?_, h.asks, h.requests, h.turnedAway,
    fun hcalls => ?_, ?_, ?_⟩
  · intro hfinal action
    refine (h.moves action).resolve_right fun hmoves => ?_
    rcases hfinal with hfinal | hfinal <;> rw [hfinal] at hmoves <;> cases hmoves
  · exact ⟨enter_of_ne_created (h.ne_created hcalls), fun k => h.proceed_of_pos⟩
  · intro call result hcall hresult
    have hstands := h.first call hcall
    rw [hresult] at hstands
    exact hstands.returned
  · intro call later hcall hwait hcount
    obtain ⟨stage, hlast, hleft⟩ := h.stepsLeft_run hcall hwait later
    have hzero : stage.stepsLeft = 0 := by
      have hseven := call.stage.stepsLeft_le
      omega
    obtain ⟨result, rfl⟩ := ((h.run later).first _ hlast).returned_of_stepsLeft hzero
    exact ⟨result, hlast⟩

/-- A second call comes while the first one is about to wait for gathering, which never ends. -/
example :
    let transport : Transport := ⟨.ok (), .ok (), .ok (), .never, none, .ok ()⟩
    let c := (new "s" (some 30)).run [.call transport, .proceed 0, .proceed 0, .proceed 0,
      .call transport, .proceed 1, .proceed 0, .proceed 0]
    c.state = .failed ∧ c.calls.map (·.stage) =
      [.returned (.error (.gatheringTimeout ⟨30⟩)),
        .returned (.error (.negotiation (.alreadySignaled .answerSet)))] ∧
      c.requests =
        [(0, .applyRemote), (0, .createAnswer), (0, .applyLocal), (0, .awaitGathering)] :=
  ⟨rfl, rfl, rfl⟩

end RtpBridge.Negotiation.Calls
