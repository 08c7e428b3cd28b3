-- SUMMARY: A closed pipe is recognised in every shape, joined messages included.
import RtpBridge.Proofs.Text.Pattern
import RtpBridge.Relay.ClosedPipe

/-!
# Closed pipes: laws

A track that is bound more than once joins the messages of its bindings by line feeds. The joined
error is that of a closed pipe just when one of the messages tells of one, since the text of a
closed pipe has no line feed in it (`TransportError.isClosed_flatten_iff`).
-/

namespace RtpBridge

/-- That a message holds the text of a closed pipe. -/
def TellsOfClosedPipe (message : String) : Prop := closedPipeText.toList <:+: message.toList

theorem mentionsClosedPipe_iff {message : String} :
    mentionsClosedPipe message ↔ TellsOfClosedPipe message := Text.contains_iff

instance : DecidablePred TellsOfClosedPipe :=
  fun message => decidable_of_iff (mentionsClosedPipe message) mentionsClosedPipe_iff

theorem LayerError.isClosed_iff (error : LayerError) :
    error.isClosed ↔ error = .bufferClosed ∨ TellsOfClosedPipe error.message := by
  cases error with
  | bufferClosed => exact iff_of_true rfl (.inl rfl)
  | other text =>
    rw [or_iff_right LayerError.noConfusion]
    exact mentionsClosedPipe_iff

/-- A join hides no closed pipe and makes none. -/
theorem tellsOfClosedPipe_intercalate_iff {messages : List String} :
    TellsOfClosedPipe ("\n".intercalate messages) ↔ ∃ m ∈ messages, TellsOfClosedPipe m := by
  have hfeed : '\n' ∉ closedPipeText.toList := by decide
  rw [TellsOfClosedPipe, String.toList_intercalate]
  refine (Text.infix_intercalate_iff hfeed (by decide)).trans ?_
  simp only [List.mem_map, exists_exists_and_eq_and, TellsOfClosedPipe]

namespace TransportError

theorem isClosed_flatten {errors : List TransportError} :
    (flatten (errors.map message)).isClosed ↔
      ∃ error ∈ errors, TellsOfClosedPipe error.message := by
  rw [flatten, isClosed, mentionsClosedPipe_iff, tellsOfClosedPipe_intercalate_iff]
  simp only [List.mem_map, exists_exists_and_eq_and]

/-- The error of a track is that of a closed pipe just when one of its bindings tells of a closed
pipe. The write then ends in order, and else it fails with all the messages. By itself or wrapped
by a layer, an error is known for one just when it is a closed pipe, a closed buffer or tells of a
closed pipe. -/
theorem isClosed_flatten_iff :
    (∀ errors : List TransportError, (flatten (errors.map message)).isClosed ↔
      ∃ error ∈ errors, TellsOfClosedPipe error.message) ∧
    (∀ errors : List TransportError,
      WriteOutcome.ofResult (.error (flatten (errors.map message))) =
        if ∃ error ∈ errors, TellsOfClosedPipe error.message then .closed
        else .failed ("\n".intercalate (errors.map message))) ∧
    closedPipe.isClosed ∧
    ∀ error : LayerError,
      ((layer error).isClosed ↔ error = .bufferClosed ∨ TellsOfClosedPipe error.message) ∧
      ((intercepted error).isClosed ↔ error = .bufferClosed ∨ TellsOfClosedPipe error.message) := by
  refine ⟨fun _ => isClosed_flatten, fun errors => ?_, rfl, fun error => ?_⟩
  · simp only [WriteOutcome.ofResult, isClosed_flatten]
    rfl
  · exact ⟨error.isClosed_iff, error.isClosed_iff⟩

/-- The text of a closed pipe does not arise from two messages that hold a part of it each. -/
example : ¬(flatten ["io: closed", "pipe", " pipe"]).isClosed := by decide

end TransportError

end RtpBridge
