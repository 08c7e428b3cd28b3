-- SUMMARY: Each session has the settings that were accepted last when its creation was asked for, for good.
import RtpBridge.Proofs.Host.Failing
import RtpBridge.Proofs.Host.Refusals

/-!
# The history of the settings

The settings of a host are those of the last document that it accepted (`Traffic.settings`). A
creation goes by the settings at the moment at which it is asked for, however long it takes, and the
handle that it answers names a session with these settings (`Traffic.Traced`). A session keeps its
settings as long as there is one, whatever is configured later. All of this holds in every run,
whatever the calls are and however they take turns (`Traffic.followsSettings_run`).
-/

namespace RtpBridge

/-! ## What a session has for good -/

namespace Session

/-- What a session is given when it is created. -/
def label (s : Session) : String × Config := (s.id, s.config)

theorem label_tearDown (stage : Teardown) (fault : Option BindFault) (isGraceOver : Bool)
    (s : Session) : (s.tearDown stage fault isGraceOver).1.label = s.label := by
  unfold tearDown
  split
  · rfl
  · rfl
  · split
    · rfl
    · split <;> rfl
  · rfl
  · rfl
  · rfl
  · split
    · rfl
    · split <;> rfl
  · rfl
  · rfl

theorem label_advance (answers : Ingress.Answers) (isGraceOver : Bool) (s : Session) :
    (s.advance answers isGraceOver).1.label = s.label := by
  unfold advance
  split
  · rfl
  · rfl
  · rfl
  · split <;> rfl
  · rfl
  · simp only [report]
    split <;> rfl
  · simp only [install]
    split <;> rfl
  · rfl
  · split <;> rfl
  · exact label_tearDown _ _ isGraceOver s
  · unfold stepClosing
    split <;> rfl

theorem label_step (s : Session) (action : Action) : (s.step action).1.label = s.label := by
  cases action with
  | run callbacks =>
    simp only [step, beginRun]
    split <;> rfl
  | closeIfIdle =>
    simp only [step, beginClose]
    split <;> rfl
  | advance answers isGraceOver => exact label_advance answers isGraceOver s
  | arrive kind arrival =>
    simp only [step, arrive]
    repeat' split
    all_goals rfl
  | pump kind =>
    simp only [step, pump]
    split <;> rfl
  | stop | feedback | message | connectionFailed => rfl

theorem label_of_create {id : String} {config : Config} {s : Session}
    (h : create id config = .ok s) : s.label = (id, config) := by
  unfold create at h
  split at h
  · cases h
    rfl
  · cases h

end Session

namespace Host

variable {host after : Host}

/-- What the sessions of a host were given, by their places. -/
def labels (host : Host) : List (String × Config) := host.sessions.map (·.label)

theorem labels_eq_some {place : Nat} {label : String × Config} :
    host.labels[place]? = some label ↔ ∃ s, host.sessions[place]? = some s ∧ s.label = label := by
  rw [labels, List.getElem?_map, Option.map_eq_some_iff]

theorem labels_modifySession {place : Nat} {f : Session → Session}
    (hf : ∀ s, host.sessions[place]? = some s → (f s).label = s.label) :
    (host.modifySession place f).labels = host.labels := by
  refine List.ext_getElem? fun i => ?_
  rw [labels, labels, List.getElem?_map, List.getElem?_map, Busy.sessions_modifySession]
  split
  · next hplace =>
    subst hplace
    cases hs : host.sessions[place]? with
    | none => rfl
    | some s => exact congrArg some (hf s hs)
  · rfl

theorem labels_of_effect {b : Busy} {action : Busy.Action} (h : b.Effect action after) :
    after.labels = b.host.labels := by
  cases h with
  | none | free => rfl
  | session place action => exact labels_modifySession fun s _ => s.label_step action
  | proceed call position place s hcall hplace hs =>
    refine labels_modifySession fun other hother => ?_
    rw [hs] at hother
    cases hother
    rcases Busy.fst_stepOn s position with hstep | ⟨action, hstep⟩
    · rw [hstep]
    · rw [hstep, s.label_step action]

theorem config_of_effect {b : Busy} {action : Busy.Action} (h : b.Effect action after) :
    after.config = b.host.config := by
  cases h <;> rfl

/-- That every handle of one host is one of another, for the same place. -/
def LiveWithin (after host : Host) : Prop :=
  ∀ (i : Nat) (slot : Slot Nat) (place : Nat), after.live.slots[i]? = some slot →
    slot.value = some place → host.live.slots[i]? = some slot

theorem liveWithin_of_eq (h : after.live = host.live) : after.LiveWithin host := by
  intro i slot place hslot _
  rwa [← h]

/-- Only a free changes which handles there are. -/
theorem liveWithin_of_effect {b : Busy} {action : Busy.Action} (h : b.Effect action after) :
    after.LiveWithin b.host := by
  cases h with
  | none | session | proceed => exact liveWithin_of_eq rfl
  | free handle found hresolve =>
    intro i slot place hslot hvalue
    have hreleased := (HandleTable.slots_release hresolve i).symm.trans hslot
    split at hreleased
    · obtain ⟨old, -, rfl⟩ := Option.map_eq_some_iff.1 hreleased
      cases hvalue
    · exact hreleased

/-- Freeing an offer changes nothing but the offers. -/
theorem exists_freeOffer_eq (host : Host) (raw : UInt64) :
    ∃ offers, host.freeOffer raw = { host with offers } := by
  unfold freeOffer
  split
  · exact ⟨_, rfl⟩
  · exact ⟨host.offers, rfl⟩

/-- A creation enters nothing, or it enters a session with a handle. -/
theorem createWith_cases (config : Config) (id : String) (host : Host) :
    (∃ error, Session.create id config = .error error ∧ (host.createWith config id).1 = 0 ∧
      (host.createWith config id).2.2 = host) ∨
    (host.createWith config id).1 = (host.live.register host.sessions.length).1.raw ∧
      (host.createWith config id).2.2.live = (host.live.register host.sessions.length).2 ∧
      (host.createWith config id).2.2.labels = host.labels ++ [(id, config)] := by
  unfold createWith
  split
  · next error hcreate => exact .inl ⟨error, hcreate, rfl, rfl⟩
  · next s hcreate =>
    refine .inr ⟨rfl, rfl, ?_⟩
    rw [labels, List.map_append, List.map_singleton, Session.label_of_create hcreate]
    rfl

namespace Traffic

variable {t : Traffic} {schedule : List Action} {call : Nat} {id : String} {config : Config}

/-! ## The settings that were accepted last -/

/-- The settings of the last document of a schedule that is accepted, or else the default ones. -/
def settings (schedule : List Action) : Config :=
  (schedule.filterMap (·.accepted?)).getLast?.getD .default

theorem settings_concat (schedule : List Action) (action : Action) :
    settings (schedule ++ [action]) = action.accepted?.getD (settings schedule) := by
  rw [settings, List.filterMap_append]
  cases haction : action.accepted? with
  | none => simp [haction, settings]
  | some config => simp [haction]

theorem config_stepOn (transport : Session → Offer → Negotiation.Transport) (host : Host)
    (standing : Standing) : (stepOn transport host standing).1.config = host.config := by
  cases standing with
  | creating id config =>
    simp only [stepOn, createWith]
    split <;> rfl
  | taking place offer =>
    obtain ⟨offers, hfree⟩ := host.exists_freeOffer_eq offer
    have htaken : (host.takeOffer offer).2.config = host.config := by
      rw [snd_takeOffer, hfree]
    simp only [stepOn]
    split <;> next htake => rwa [htake] at htaken
  | presenting place offer =>
    simp only [stepOn]
    split
    · rfl
    · split <;> rfl
  | exchanging place offer =>
    simp only [stepOn]
    split <;> rfl
  | returned answer => rfl

/-- A document that is accepted replaces the settings, and nothing else changes them. -/
theorem config_step (t : Traffic) (action : Action) :
    (t.step action).1.host.config = action.accepted?.getD t.host.config := by
  cases action with
  | configure document => exact congrArg Host.config (configure_eq document t.host).2
  | busy action => exact config_of_effect (t.busy.effect_step action)
  | create id => rfl
  | buildOffer octets =>
    have hafter : (t.host.buildOffer octets).2.2.config = t.host.config := by
      rcases t.host.buildOffer_cases octets with ⟨-, hsame⟩ | ⟨offer, -, hafter⟩
      · rw [hsame]
      · rw [hafter]
    exact hafter
  | signal session offer =>
    simp only [step, enterSignal]
    split <;> rfl
  | freeOffer offer =>
    obtain ⟨offers, hfree⟩ := t.host.exists_freeOffer_eq offer
    have hafter : (t.host.freeOffer offer).config = t.host.config := by rw [hfree]
    exact hafter
  | proceed call transport =>
    simp only [step, proceed]
    split
    · rfl
    · next standing _ => exact config_stepOn transport t.host standing

/-! ## Steps that are no part of a creation -/

/-- What a step leaves as it is that is no part of a creation: what the sessions were given, the
handles unless one is freed, and the calls that create or have returned. -/
structure KeepsCreations (t after : Traffic) : Prop where
  labels : after.host.labels = t.host.labels
  live : after.host.LiveWithin t.host
  creating : ∀ (call : Nat) (id : String) (config : Config),
    t.calls[call]? = some (.creating id config) ↔
      after.calls[call]? = some (.creating id config)
  returned : ∀ (call : Nat) (answer : Answer), t.calls[call]? = some (.returned answer) →
    after.calls[call]? = some (.returned answer)

theorem getElem?_enter {standing found : Standing} {host : Host}
    (h : t.calls[call]? = some found) : (t.enter host standing).calls[call]? = some found := by
  rw [enter, List.getElem?_append_left (List.getElem?_eq_some_iff.1 h).1, h]

theorem keepsCreations_enter {standing : Standing} {host : Host}
    (hlabels : host.labels = t.host.labels) (hlive : host.LiveWithin t.host)
    (hstanding : ∀ id config, standing ≠ .creating id config) :
    t.KeepsCreations (t.enter host standing) := by
  refine ⟨hlabels, hlive, fun call id config => ⟨getElem?_enter, fun h => ?_⟩,
    fun _ _ => getElem?_enter⟩
  rw [enter, List.getElem?_append] at h
  split at h
  · exact h
  · rw [List.getElem?_singleton] at h
    split at h
    · exact absurd (Option.some.inj h) (hstanding id config)
    · cases h

/-- Setting a call leaves creations alone if it is none and does not become one. -/
theorem keepsCreations_set {standing next : Standing} {host : Host}
    (hcall : t.calls[call]? = some standing) (hlabels : host.labels = t.host.labels)
    (hlive : host.LiveWithin t.host) (hbefore : ∀ id config, standing ≠ .creating id config)
    (hafter : ∀ id config, next ≠ .creating id config)
    (hreturned : ∀ answer, standing = .returned answer → next = .returned answer) :
    t.KeepsCreations ⟨{ t.busy with host }, t.calls.set call next⟩ := by
  have hlt : call < t.calls.length := (List.getElem?_eq_some_iff.1 hcall).1
  refine ⟨hlabels, hlive, fun other id config => ?_, fun other answer hother => ?_⟩
  · by_cases hsame : call = other
    · subst hsame
      rw [List.getElem?_set_self hlt, hcall]
      exact iff_of_false (fun h => hbefore id config (Option.some.inj h))
        fun h => hafter id config (Option.some.inj h)
    · rw [List.getElem?_set_ne hsame]
  · by_cases hsame : call = other
    · subst hsame
      rw [hcall] at hother
      rw [List.getElem?_set_self hlt, hreturned answer (Option.some.inj hother)]
    · rw [List.getElem?_set_ne hsame]
      exact hother

/-- What a call does to the sessions besides creating one, it does to their exchanges. -/
theorem keepsCreations_stepOn {standing : Standing} (hcall : t.calls[call]? = some standing)
    (hstanding : ∀ id config, standing ≠ .creating id config)
    (transport : Session → Offer → Negotiation.Transport) :
    t.KeepsCreations ⟨{ t.busy with host := (stepOn transport t.host standing).1 },
      t.calls.set call (stepOn transport t.host standing).2⟩ := by
  have hexchange (place : Nat) (exchange : Negotiation.Exchange) :
      (t.host.modifySession place fun s => { s with exchange }).labels = t.host.labels :=
    labels_modifySession fun _ _ => rfl
  cases standing with
  | creating id config => exact absurd rfl (hstanding id config)
  | taking place offer =>
    obtain ⟨offers, hfree⟩ := t.host.exists_freeOffer_eq offer
    rw [← snd_takeOffer] at hfree
    simp only [stepOn]
    split <;> next htake =>
      rw [htake] at hfree
      subst hfree
      exact keepsCreations_set hcall rfl (liveWithin_of_eq rfl) hstanding (fun _ _ h => by cases h)
        fun _ h => by cases h
  | presenting place offer =>
    simp only [stepOn]
    split
    · exact keepsCreations_set hcall rfl (liveWithin_of_eq rfl) hstanding (fun _ _ h => by cases h)
        fun _ h => by cases h
    · split
      · exact keepsCreations_set hcall (hexchange place _) (liveWithin_of_eq rfl) hstanding
          (fun _ _ h => by cases h) fun _ h => by cases h
      · exact keepsCreations_set hcall rfl (liveWithin_of_eq rfl) hstanding
          (fun _ _ h => by cases h) fun _ h => by cases h
  | exchanging place offer =>
    simp only [stepOn]
    split
    · exact keepsCreations_set hcall rfl (liveWithin_of_eq rfl) hstanding (fun _ _ h => by cases h)
        fun _ h => by cases h
    · refine keepsCreations_set hcall (hexchange place _) (liveWithin_of_eq rfl) hstanding
        (fun _ _ => ?_) fun _ h => by cases h
      split <;> exact fun h => by cases h
  | returned answer =>
    exact keepsCreations_set hcall rfl (liveWithin_of_eq rfl) hstanding hstanding fun _ h => h

/-- A step begins a creation, ends one, or has nothing to do with any. -/
theorem step_creates_or_keeps (t : Traffic) (action : Action) :
    (∃ id, action = .create id) ∨
    (∃ call transport id config, action = .proceed call transport ∧
      t.calls[call]? = some (.creating id config)) ∨
    t.KeepsCreations (t.step action).1 := by
  cases action with
  | create id => exact .inl ⟨id, rfl⟩
  | busy action =>
    have heffect := t.busy.effect_step action
    exact .inr (.inr ⟨labels_of_effect heffect, liveWithin_of_effect heffect,
      fun _ _ _ => .rfl, fun _ _ h => h⟩)
  | configure document =>
    have hhost := (configure_eq document t.host).2
    have hsame : (t.host.configure document).2.2.labels = t.host.labels ∧
        (t.host.configure document).2.2.live = t.host.live := by
      rw [hhost]
      exact ⟨rfl, rfl⟩
    exact .inr (.inr (keepsCreations_enter hsame.1 (liveWithin_of_eq hsame.2)
      fun _ _ h => by cases h))
  | buildOffer octets =>
    have hsame : (t.host.buildOffer octets).2.2.labels = t.host.labels ∧
        (t.host.buildOffer octets).2.2.live = t.host.live := by
      rcases t.host.buildOffer_cases octets with ⟨-, hsame⟩ | ⟨offer, -, hafter⟩
      · rw [hsame]
        exact ⟨rfl, rfl⟩
      · rw [hafter]
        exact ⟨rfl, rfl⟩
    exact .inr (.inr (keepsCreations_enter hsame.1 (liveWithin_of_eq hsame.2)
      fun _ _ h => by cases h))
  | signal session offer =>
    refine .inr (.inr ?_)
    simp only [step, enterSignal]
    split <;> exact keepsCreations_enter rfl (liveWithin_of_eq rfl) fun _ _ h => by cases h
  | freeOffer offer =>
    obtain ⟨offers, hfree⟩ := t.host.exists_freeOffer_eq offer
    refine .inr (.inr ?_)
    simp only [step, hfree]
    exact keepsCreations_enter rfl (liveWithin_of_eq rfl) fun _ _ h => by cases h
  | proceed call transport =>
    cases hcall : t.calls[call]? with
    | none =>
      refine .inr (.inr ?_)
      simp only [step, proceed, hcall]
      exact ⟨rfl, liveWithin_of_eq rfl, fun _ _ _ => .rfl, fun _ _ h => h⟩
    | some standing =>
      by_cases hstanding : ∃ id config, standing = .creating id config
      · obtain ⟨id, config, rfl⟩ := hstanding
        exact .inr (.inl ⟨call, transport, id, config, rfl, hcall⟩)
      · refine .inr (.inr ?_)
        simp only [step, proceed, hcall]
        exact keepsCreations_stepOn hcall (fun id config h => hstanding ⟨id, config, h⟩) transport

/-- A creation that ends enters its session with the settings that it has read. -/
theorem host_step_of_creating (hcall : t.calls[call]? = some (.creating id config))
    (transport : Session → Offer → Negotiation.Transport) :
    (t.step (.proceed call transport)).1.host = (t.host.createWith config id).2.2 := by
  simp only [step, proceed, hcall, stepOn]
  rfl

/-- What a session was given, it has for good. -/
theorem labels_step {place : Nat} {label : String × Config}
    (h : t.host.labels[place]? = some label) (action : Action) :
    (t.step action).1.host.labels[place]? = some label := by
  rcases t.step_creates_or_keeps action with ⟨name, rfl⟩ |
    ⟨call, transport, name, config, rfl, hcall⟩ | hkeeps
  · exact h
  · rw [host_step_of_creating hcall]
    rcases createWith_cases config name t.host with ⟨_, -, -, hsame⟩ | ⟨-, -, hlabels⟩
    · rwa [hsame]
    · rw [hlabels, List.getElem?_append_left (List.getElem?_eq_some_iff.1 h).1, h]
  · rwa [hkeeps.labels]

theorem labels_run {place : Nat} {label : String × Config}
    (h : t.host.labels[place]? = some label) (schedule : List Action) :
    (t.run schedule).1.host.labels[place]? = some label := by
  induction schedule generalizing t with
  | nil => exact h
  | cons action rest ih => exact ih (labels_step h action)

/-! ## Creations -/

/-- That the call of this number is a creation under this name, made when these were the
settings. -/
def IsCreation (schedule : List Action) (call : Nat) (id : String) (config : Config) : Prop :=
  ∃ before after, schedule = before ++ .create id :: after ∧
    (new.run before).1.calls.length = call ∧ config = settings before

/-- How a call stands that creates a session with these settings. -/
inductive Creation (t : Traffic) (call : Nat) (id : String) (config : Config) : Prop
  /-- It will create one with these settings. -/
  | pending (h : t.calls[call]? = some (.creating id config))
  /-- There is no session with these settings. -/
  | refused (h : t.calls[call]? = some (.returned (.handle 0)))
      (error : Error) (hcreate : Session.create id config = .error error)
  /-- It has answered a handle for a session with these settings. -/
  | made (handle : Handle) (h : t.calls[call]? = some (.returned (.handle handle.raw)))
      (place : Nat) (hplace : t.host.labels[place]? = some (id, config))

theorem IsCreation.append (h : IsCreation schedule call id config) (rest : List Action) :
    IsCreation (schedule ++ rest) call id config := by
  obtain ⟨before, after, rfl, hcall, hconfig⟩ := h
  exact ⟨before, after ++ rest, by rw [List.append_assoc, List.cons_append], hcall, hconfig⟩

/-- A creation is an old one, or it is made with the last action. -/
theorem IsCreation.of_concat {action : Action}
    (h : IsCreation (schedule ++ [action]) call id config) :
    IsCreation schedule call id config ∨ action = .create id ∧
      (new.run schedule).1.calls.length = call ∧ config = settings schedule := by
  obtain ⟨before, after, hschedule, hcall, hconfig⟩ := h
  cases after using List.reverseRecOn with
  | nil =>
    obtain ⟨rfl, haction⟩ := List.append_inj' hschedule rfl
    exact .inr ⟨List.singleton_inj.1 haction, hcall, hconfig⟩
  | append_singleton after last =>
    rw [← List.cons_append, ← List.append_assoc] at hschedule
    obtain ⟨rfl, -⟩ := List.append_inj' hschedule rfl
    exact .inl ⟨before, after, rfl, hcall, hconfig⟩

/-- That the creations of a schedule stand as they should, and that each session and each handle is
due to one of them. -/
structure Traced (schedule : List Action) (t : Traffic) : Prop where
  housed : t.host.Housed
  current : t.host.config = settings schedule
  pending : ∀ (call : Nat) (id : String) (config : Config),
    t.calls[call]? = some (.creating id config) → IsCreation schedule call id config
  creations : ∀ (call : Nat) (id : String) (config : Config),
    IsCreation schedule call id config → t.Creation call id config
  sessions : ∀ (place : Nat) (id : String) (config : Config),
    t.host.labels[place]? = some (id, config) → ∃ (call : Nat) (handle : Handle),
      IsCreation schedule call id config ∧
        t.calls[call]? = some (.returned (.handle handle.raw))
  handles : ∀ (i : Nat) (slot : Slot Nat) (place : Nat), t.host.live.slots[i]? = some slot →
    slot.value = some place → ∃ (call : Nat) (id : String) (config : Config),
      IsCreation schedule call id config ∧ t.host.labels[place]? = some (id, config) ∧
        t.calls[call]? = some (.returned (.handle (Handle.pack i slot.generation).raw))

theorem traced_new : Traced [] new where
  housed := housed_new
  current := rfl
  pending _ _ _ h := nomatch h
  creations _ _ _ h := by
    obtain ⟨before, after, hnil, -⟩ := h
    cases before <;> cases hnil
  sessions _ _ _ h := nomatch h
  handles i slot place hslot := by simp [new, host, Host.new, HandleTable.empty] at hslot

theorem Creation.keep {after : Traffic} (h : t.Creation call id config)
    (hkeeps : t.KeepsCreations after) : after.Creation call id config := by
  cases h with
  | pending h => exact .pending ((hkeeps.creating ..).1 h)
  | refused h error hcreate => exact .refused (hkeeps.returned _ _ h) error hcreate
  | made handle h place hplace =>
    exact .made handle (hkeeps.returned _ _ h) place (hkeeps.labels ▸ hplace)

/-- A step that has nothing to do with creations leaves them as they stand. -/
theorem Traced.keep (h : Traced schedule t) {action : Action}
    (haction : ∀ id, action ≠ .create id) (hkeeps : t.KeepsCreations (t.step action).1) :
    Traced (schedule ++ [action]) (t.step action).1 where
  housed := h.housed.step action
  current := by rw [config_step, h.current, settings_concat]
  pending call id config hcall := (h.pending call id config ((hkeeps.creating ..).2 hcall)).append _
  creations call id config hcreation := by
    rcases hcreation.of_concat with hold | ⟨hnew, -, -⟩
    · exact (h.creations call id config hold).keep hkeeps
    · exact absurd hnew (haction id)
  sessions place id config hplace := by
    rw [hkeeps.labels] at hplace
    obtain ⟨call, handle, hcreation, hcall⟩ := h.sessions place id config hplace
    exact ⟨call, handle, hcreation.append _, hkeeps.returned _ _ hcall⟩
  handles i slot place hslot hvalue := by
    obtain ⟨call, id, config, hcreation, hplace, hcall⟩ :=
      h.handles i slot place (hkeeps.live i slot place hslot hvalue) hvalue
    exact ⟨call, id, config, hcreation.append _, hkeeps.labels ▸ hplace,
      hkeeps.returned _ _ hcall⟩

/-- A creation is pending when it is made. -/
theorem Traced.create (h : Traced schedule t) (ht : t = (new.run schedule).1) (id : String) :
    Traced (schedule ++ [.create id]) (t.step (.create id)).1 where
  housed := h.housed.step _
  current := by rw [config_step, h.current, settings_concat]
  pending call other config hcall := by
    simp only [step, enter, List.getElem?_append] at hcall
    split at hcall
    · exact (h.pending call other config hcall).append _
    · next hlength =>
      rw [List.getElem?_singleton] at hcall
      split at hcall
      · cases hcall
        refine ⟨schedule, [], rfl, ?_, h.current⟩
        rw [← ht]
        omega
      · cases hcall
  creations call other config hcreation := by
    rcases hcreation.of_concat with hold | ⟨hnew, hcall, hconfig⟩
    · cases h.creations call other config hold with
      | pending h => exact .pending (getElem?_enter h)
      | refused h error hcreate => exact .refused (getElem?_enter h) error hcreate
      | made handle h place hplace => exact .made handle (getElem?_enter h) place hplace
    · cases hnew
      refine .pending ?_
      rw [hconfig, ← hcall, ← ht, ← h.current]
      exact List.getElem?_concat_length
  sessions place other config hplace := by
    obtain ⟨call, handle, hcreation, hcall⟩ := h.sessions place other config hplace
    exact ⟨call, handle, hcreation.append _, getElem?_enter hcall⟩
  handles i slot place hslot hvalue := by
    obtain ⟨call, other, config, hcreation, hplace, hcall⟩ := h.handles i slot place hslot hvalue
    exact ⟨call, other, config, hcreation.append _, hplace, getElem?_enter hcall⟩

/-- What setting a pending creation leaves as it is. -/
theorem getElem?_set_of_creating {next found : Standing}
    (hcall : t.calls[call]? = some (.creating id config)) {other : Nat}
    (hfound : t.calls[other]? = some found) (hne : found ≠ .creating id config) :
    (t.calls.set call next)[other]? = some found := by
  have hdiffer : call ≠ other := fun heq => by
    subst heq
    rw [hcall] at hfound
    exact hne (Option.some.inj hfound).symm
  rw [List.getElem?_set_ne hdiffer, hfound]

/-- A pending creation ends in a host that has what the old one had, and at most one session and one
handle more, which are its own. -/
theorem Traced.finish (h : Traced schedule t)
    (hcall : t.calls[call]? = some (.creating id config)) {action : Action}
    (haction : ∀ id, action ≠ .create id) {after : Host} {raw : UInt64}
    (hstep : (t.step action).1 =
      ⟨{ t.busy with host := after }, t.calls.set call (.returned (.handle raw))⟩)
    (hcreation : (t.step action).1.Creation call id config)
    (hsessions : ∀ (place : Nat) (label : String × Config), after.labels[place]? = some label →
      t.host.labels[place]? = some label ∨
        label = (id, config) ∧ ∃ handle : Handle, raw = handle.raw)
    (hhandles : ∀ (i : Nat) (slot : Slot Nat) (place : Nat), after.live.slots[i]? = some slot →
      slot.value = some place → t.host.live.slots[i]? = some slot ∨
        after.labels[place]? = some (id, config) ∧ raw = (Handle.pack i slot.generation).raw) :
    Traced (schedule ++ [action]) (t.step action).1 := by
  have hlt : call < t.calls.length := (List.getElem?_eq_some_iff.1 hcall).1
  have hmade := (h.pending call id config hcall).append [action]
  have hanswered : (t.step action).1.calls[call]? = some (.returned (.handle raw)) := by
    rw [hstep]
    exact List.getElem?_set_self hlt
  have hkept {other : Nat} {answer : Answer}
      (hother : t.calls[other]? = some (.returned answer)) :
      (t.step action).1.calls[other]? = some (.returned answer) := by
    rw [hstep]
    exact getElem?_set_of_creating hcall hother nofun
  have hhost : (t.step action).1.host = after := congrArg host hstep
  refine ⟨h.housed.step action, by rw [config_step, h.current, settings_concat], ?_, ?_, ?_, ?_⟩
  · intro other name settings hpending
    rw [hstep] at hpending
    by_cases hsame : call = other
    · subst hsame
      rw [List.getElem?_set_self hlt] at hpending
      cases hpending
    · rw [List.getElem?_set_ne hsame] at hpending
      exact (h.pending other name settings hpending).append _
  · intro other name settings hother
    have hold := hother.of_concat.resolve_right fun hnew => haction name hnew.1
    cases h.creations other name settings hold with
    | pending hpending =>
      by_cases hsame : call = other
      · subst hsame
        rw [hcall] at hpending
        cases hpending
        exact hcreation
      · refine .pending ?_
        rw [hstep, List.getElem?_set_ne hsame]
        exact hpending
    | refused hrefused error hcreate => exact .refused (hkept hrefused) error hcreate
    | made handle hmade place hplace =>
      exact .made handle (hkept hmade) place (labels_step hplace action)
  · intro place name settings hplace
    rw [hhost] at hplace
    rcases hsessions place _ hplace with hold | ⟨hnew, handle, hraw⟩
    · obtain ⟨other, handle, hother, hanswer⟩ := h.sessions place name settings hold
      exact ⟨other, handle, hother.append _, hkept hanswer⟩
    · cases hnew
      exact ⟨call, handle, hmade, hraw ▸ hanswered⟩
  · intro i slot place hslot hvalue
    rw [hhost] at hslot
    rcases hhandles i slot place hslot hvalue with hold | ⟨hplace, hraw⟩
    · obtain ⟨other, name, settings, hother, hplace, hanswer⟩ :=
        h.handles i slot place hold hvalue
      exact ⟨other, name, settings, hother.append _, labels_step hplace action, hkept hanswer⟩
    · exact ⟨call, id, config, hmade, hhost ▸ hplace, hraw ▸ hanswered⟩

/-- A pending creation ends with the settings that it goes by. -/
theorem Traced.proceed (h : Traced schedule t)
    (hcall : t.calls[call]? = some (.creating id config))
    (transport : Session → Offer → Negotiation.Transport) :
    Traced (schedule ++ [.proceed call transport]) (t.step (.proceed call transport)).1 := by
  have hlt : call < t.calls.length := (List.getElem?_eq_some_iff.1 hcall).1
  have hstep : (t.step (.proceed call transport)).1 =
      ⟨{ t.busy with host := (t.host.createWith config id).2.2 },
        t.calls.set call (.returned (.handle (t.host.createWith config id).1))⟩ := by
    simp only [step, Traffic.proceed, hcall, stepOn]
  rcases createWith_cases config id t.host with ⟨error, hcreate, hraw, hsame⟩ |
    ⟨hraw, hlive, hlabels⟩
  · rw [hraw, hsame] at hstep
    refine h.finish hcall (fun _ h => by cases h) hstep (.refused ?_ error hcreate)
      (fun _ _ h => .inl h) fun _ _ _ h _ => .inl h
    rw [hstep]
    exact List.getElem?_set_self hlt
  · have hplace : (t.host.labels ++ [(id, config)])[t.host.sessions.length]? =
        some (id, config) := by
      have hlength : t.host.labels.length = t.host.sessions.length := List.length_map ..
      rw [← hlength]
      exact List.getElem?_concat_length
    refine h.finish hcall (fun _ h => by cases h) hstep ?_ ?_ ?_
    · refine .made (t.host.live.register t.host.sessions.length).1 ?_ t.host.sessions.length ?_
      · rw [hstep, hraw]
        exact List.getElem?_set_self hlt
      · rw [hstep]
        exact hlabels ▸ hplace
    · intro place label hnew
      rw [hlabels, List.getElem?_append] at hnew
      split at hnew
      · exact .inl hnew
      · rw [List.getElem?_singleton] at hnew
        split at hnew
        · exact .inr ⟨(Option.some.inj hnew).symm, _, hraw⟩
        · cases hnew
    · intro i slot place hslot hvalue
      rw [hlive, HandleTable.slots_register h.housed.wellFormed] at hslot
      split at hslot
      · next hindex =>
        cases hslot
        cases hvalue
        refine .inr ⟨hlabels ▸ hplace, ?_⟩
        rw [hraw, HandleTable.fst_register, hindex]
      · exact .inl hslot

/-! ## Runs -/

theorem fst_run_append (t : Traffic) (schedule later : List Action) :
    (t.run (schedule ++ later)).1 = ((t.run schedule).1.run later).1 := by
  induction schedule generalizing t with
  | nil => rfl
  | cons first rest ih => exact ih (t.step first).1

theorem fst_run_concat (t : Traffic) (schedule : List Action) (action : Action) :
    (t.run (schedule ++ [action])).1 = ((t.run schedule).1.step action).1 :=
  t.fst_run_append schedule [action]

theorem traced_run (schedule : List Action) : Traced schedule (new.run schedule).1 := by
  induction schedule using List.reverseRecOn with
  | nil => exact traced_new
  | append_singleton schedule action ih =>
    rw [fst_run_concat]
    rcases (new.run schedule).1.step_creates_or_keeps action with ⟨id, rfl⟩ |
      ⟨call, transport, id, config, rfl, hcall⟩ | hkeeps
    · exact ih.create rfl id
    · exact ih.proceed hcall transport
    · by_cases haction : ∃ id, action = .create id
      · obtain ⟨id, rfl⟩ := haction
        exact ih.create rfl id
      · exact ih.keep (fun id heq => haction ⟨id, heq⟩) hkeeps

/-- That all goes by the settings that were accepted last, in a run from the start. -/
structure FollowsSettings (schedule : List Action) : Prop where
  /-- The settings of the host are those that it accepted last. -/
  current : (new.run schedule).1.host.config = settings schedule
  /-- A document that is accepted replaces all settings, and one that is not changes nothing. -/
  answers : ∀ document, (new.run schedule).1.step (.configure document) =
    ((new.run schedule).1.enter
      { (new.run schedule).1.host with
        config := (Action.configure document).accepted?.getD (settings schedule) }
      (.returned (.accepted (Action.configure document).accepted?.isSome)), [])
  /-- Every creation goes by the settings that were accepted last when it was made. -/
  creations : ∀ call id config, IsCreation schedule call id config →
    (new.run schedule).1.Creation call id config
  /-- A creation that ends, ends with the settings that it was made with, whatever was configured
  since. -/
  ends : ∀ call id config transport,
    (new.run schedule).1.calls[call]? = some (.creating id config) →
      IsCreation schedule call id config ∧
        ((new.run schedule).1.step (.proceed call transport)).1.host =
          ((new.run schedule).1.host.createWith config id).2.2
  /-- Every session is due to a creation, and has its settings. -/
  sessions : ∀ (place : Nat) (s : Session), (new.run schedule).1.host.sessions[place]? = some s →
    ∃ (call : Nat) (handle : Handle), IsCreation schedule call s.id s.config ∧
      (new.run schedule).1.calls[call]? = some (.returned (.handle handle.raw))
  /-- A handle names the session of the creation that answered it. -/
  named : ∀ raw place, (new.run schedule).1.host.resolve raw = .ok place →
    ∃ call s, IsCreation schedule call s.id s.config ∧
      (new.run schedule).1.host.sessions[place]? = some s ∧
        (new.run schedule).1.calls[call]? = some (.returned (.handle raw))
  /-- A session keeps its settings, whatever comes later. -/
  kept : ∀ (later : List Action) (place : Nat) (s : Session),
    (new.run schedule).1.host.sessions[place]? = some s →
    ∃ left, (new.run (schedule ++ later)).1.host.sessions[place]? = some left ∧
      left.id = s.id ∧ left.config = s.config
  /-- Without the documents that were refused, all is the same but that these calls are missing. -/
  refused : new.run (new.withoutRefused schedule) =
    ((new.run schedule).1.heard, (new.run schedule).2)

theorem Traced.named (h : Traced schedule t) {raw : UInt64} {place : Nat}
    (hresolve : t.host.resolve raw = .ok place) :
    ∃ call s, IsCreation schedule call s.id s.config ∧ t.host.sessions[place]? = some s ∧
      t.calls[call]? = some (.returned (.handle raw)) := by
  obtain ⟨handle, rfl, hlive⟩ := resolve_eq_ok.1 hresolve
  obtain ⟨slot, hslot, hgeneration, hvalue⟩ := HandleTable.resolve?_eq_some.1 hlive
  obtain ⟨call, id, config, hcreation, hplace, hcall⟩ := h.handles _ slot place hslot hvalue
  obtain ⟨s, hs, hlabel⟩ := labels_eq_some.1 hplace
  cases hlabel
  have hindex : handle.index < 0x100000000 := Nat.mod_lt _ (by decide)
  have hpack : Handle.pack handle.index slot.generation = handle :=
    Handle.eq_of_index_of_generation (Handle.index_pack _ hindex)
      ((Handle.generation_pack ..).trans hgeneration)
  rw [hpack] at hcall
  exact ⟨call, s, hcreation, hs, hcall⟩

/-- However the calls of a host take turns, a session has the settings that were accepted last
before its creation was made, and has them for good. -/
theorem followsSettings_run (schedule : List Action) : FollowsSettings schedule := by
  have htraced := traced_run schedule
  refine ⟨htraced.current, ?_, htraced.creations, ?_, ?_, fun _ _ => htraced.named, ?_,
    run_withoutRefused new schedule⟩
  · intro document
    obtain ⟨hanswer, hhost⟩ := configure_eq document (new.run schedule).1.host
    simp only [step, hanswer, hhost, htraced.current]
  · intro call id config transport hcall
    exact ⟨htraced.pending call id config hcall, host_step_of_creating hcall transport⟩
  · intro place s hs
    exact htraced.sessions place s.id s.config (labels_eq_some.2 ⟨s, hs, rfl⟩)
  · intro later place s hs
    have hlabel := labels_run (labels_eq_some.2 ⟨s, hs, rfl⟩) later
    rw [← fst_run_append] at hlabel
    obtain ⟨left, hleft, hsame⟩ := labels_eq_some.1 hlabel
    exact ⟨left, hleft, congrArg Prod.fst hsame, congrArg Prod.snd hsame⟩

end Traffic

end Host

end RtpBridge
