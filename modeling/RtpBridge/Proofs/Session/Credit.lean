-- SUMMARY: At most one stop or failing pump is credited with having stopped a session.
import RtpBridge.Proofs.Session.Blame
import RtpBridge.Proofs.Session.Taking
import RtpBridge.Proofs.StopLatch

/-!
# Who has stopped a session

A stop is told whether it was the first, and a pump that fails first is seen to trigger the latch.
Each of them that is credited is one more who was seen to trigger it (`Session.Calls.Credits`), and
there is at most one (`Session.stopsOnce`).
-/

namespace RtpBridge.Session

variable {s : Session} {action : Action}

/-! ## Credit -/

def Stopper.isPump : Stopper → Bool
  | .pump _ => true
  | .host | .owner | .connection => false

/-- Whether a call is told that it has stopped the session. -/
def Call.isCredited (call : Call) : Bool :=
  match call.reply? with
  | some (.stopped isFirst) => isFirst
  | _ => false

theorem isCredited_await (s : Session) (call : Call) :
    (call.await s).isCredited = call.isCredited := by
  obtain ⟨request, found, reply?⟩ := call
  cases reply? with
  | some reply => rfl
  | none =>
    simp only [Call.await, Option.none_or, Call.isCredited, ownerReply?]
    cases s.control <;> rfl

/-- A call that is credited is a stop that finds the latch armed. -/
theorem isCredited_call? {call : Call} (hcall : s.call? action = some call)
    (hcredited : call.isCredited) : action = .stop ∧ s.stop = .armed := by
  obtain ⟨request, hrequest, rfl⟩ := Option.map_eq_some_iff.1 hcall
  cases action with
  | stop =>
    cases hrequest
    refine ⟨rfl, ?_⟩
    cases hstop : s.stop with
    | armed => rfl
    | triggered =>
      simp only [Call.isCredited, reply?, hstop] at hcredited
      cases hcredited
  | run | closeIfIdle =>
    cases hrequest
    by_cases hidle : s.lifecycle = .idle <;>
      simp [Call.isCredited, reply?, Request.refusal?, hidle] at hcredited
  | advance | arrive | pump | feedback | message | connectionFailed => cases hrequest

/-- Each call or pump that is credited in a step is one more that is seen to trigger the latch. -/
theorem credit_step (s : Session) (action : Action) :
    (s.call? action).toList.countP Call.isCredited +
        (stoppers (s.step action).2).countP Stopper.isPump ≤
      (stoppers (s.step action).2).length := by
  by_cases hcredited : ∃ call ∈ s.call? action, call.isCredited
  · obtain ⟨call, hcall, hcredited⟩ := hcredited
    obtain ⟨rfl, hstop⟩ := isCredited_call? hcall hcredited
    simp only [Option.mem_def.1 hcall, Option.toList_some, step, triggerStop, hstop]
    rw [List.countP_singleton, if_pos hcredited]
    exact Nat.le_refl 1
  · have hnone : (s.call? action).toList.countP Call.isCredited = 0 :=
      List.countP_eq_zero.2 fun call hcall hisCredited =>
        hcredited ⟨call, Option.mem_toList.1 hcall, hisCredited⟩
    rw [hnone, Nat.zero_add]
    exact List.countP_le_length

namespace Calls

variable {c : Calls}

/-- That whoever is credited was seen to trigger the latch. -/
structure Credits (c : Calls) : Prop where
  findings : c.session.Findings c.seen
  credited : c.calls.countP Call.isCredited + (stoppers c.seen).countP Stopper.isPump ≤
    (stoppers c.seen).length

theorem credits_new (id : String) (config : Config) (tracks : MediaKind → Sink) :
    (Calls.new { Session.new id config with tracks }).Credits :=
  ⟨findings_new id config tracks, Nat.le_refl 0⟩

theorem Credits.step (h : c.Credits) (action : Action) : (c.step action).Credits := by
  refine ⟨h.findings.step action, ?_⟩
  have hcalls : (c.step action).calls.countP Call.isCredited =
      c.calls.countP Call.isCredited +
        (c.session.call? action).toList.countP Call.isCredited := by
    rw [calls_step, List.countP_map, List.countP_append]
    simp only [Function.comp_def, isCredited_await]
  have hseen : stoppers (c.step action).seen =
      stoppers c.seen ++ stoppers (c.session.step action).2 := stoppers_append _ _
  have hold := h.credited
  have hnew := credit_step c.session action
  rw [hcalls, hseen, List.countP_append, List.length_append]
  omega

theorem Credits.run (h : c.Credits) (schedule : List Action) : (c.run schedule).Credits := by
  induction schedule generalizing c with
  | nil => exact h
  | cons action rest ih => exact ih (h.step action)

end Calls

/-- A latch is triggered by the earliest trigger of any of its holders, which are its first one and
those that were cloned from them; everyone sees it triggered from then on, and every wait for it is
over then and not before. Of all that tell a session to stop
and of its pumps that fail, at most one is therefore told or seen to have stopped it. -/
theorem stopsOnce (actions : List StopLatch.Room.Action) (place : Nat) (id : String)
    (config : Config) (tracks : MediaKind → Sink) (schedule : List Action) :
    StopLatch.Room.IsLatching (StopLatch.Room.history place .single actions) ∧
    Shared.Admits StopLatch.Room.step (·.latches) .clone .new .added
      (StopLatch.Room.after actions) ∧
    StopLatch.Room.WaitsWell actions ∧
    ((Calls.new { new id config with tracks }).run schedule).calls.countP Call.isCredited +
      (stoppers ((Calls.new { new id config with tracks }).run schedule).seen).countP
        Stopper.isPump ≤ 1 := by
  have hcredits := (Calls.credits_new id config tracks).run schedule
  refine ⟨StopLatch.Room.isLatching_history actions place,
    StopLatch.Room.admits (StopLatch.Room.isSound_after actions),
    StopLatch.Room.waitsWell actions, hcredits.credited.trans ?_⟩
  rw [hcredits.findings.inquest.latch]
  split
  · exact Nat.le_refl 1
  · exact Nat.zero_le 1

end RtpBridge.Session
