-- SUMMARY: The line of a candidate names the candidate's type and no other.
import RtpBridge.Ice.Tally
import RtpBridge.Proofs.Text.Pattern

/-!
# Lines of candidates

A candidate is told as words with a space between each two: the foundation, the component, the
transport, the priority, the address, the port, the type behind `typ`, and the related address if
there is one. Every other word is a number or stands next to one, save in the related address, so
whatever the words are, no two of them name another type (`CandidateLine.names_iff`).
-/

namespace RtpBridge.Ice

/-! ## Words -/

/-- Characters none of which is a space. -/
structure Word where
  chars : List Char
  unspaced : ' ' ∉ chars

/-- A number in decimal. -/
structure Digits where
  chars : List Char
  isNonempty : chars ≠ []
  areDigits : ∀ c ∈ chars, c.isDigit

/-! ## Types and lines -/

inductive CandidateType where
  | host
  | reflexive
  /-- Only the peer sees it, in the checks that it makes. -/
  | peerReflexive
  | relayed
deriving DecidableEq

namespace CandidateType

def word : CandidateType → List Char
  | .host => "host".toList
  | .reflexive => "srflx".toList
  | .peerReflexive => "prflx".toList
  | .relayed => "relay".toList

/-- What a candidate of the type counts. -/
def share : CandidateType → Tally
  | .host => ⟨1, 0, 0⟩
  | .reflexive => ⟨0, 1, 0⟩
  | .peerReflexive => ⟨0, 0, 0⟩
  | .relayed => ⟨0, 0, 1⟩

/-- What names the type in a line. -/
def naming (type : CandidateType) : List Char := "typ".toList ++ ' ' :: type.word

end CandidateType

/-- A candidate as a description tells it. -/
structure CandidateLine where
  foundation : Word
  component : Digits
  transport : Word
  priority : Digits
  address : Word
  port : Digits
  type : CandidateType
  /-- The related address and its port. -/
  related : Option (Word × Digits)

namespace CandidateLine

def relatedWords : Option (Word × Digits) → List (List Char)
  | none => []
  | some (address, port) => ["raddr".toList, address.chars, "rport".toList, port.chars]

def words (c : CandidateLine) : List (List Char) :=
  (Tally.lineStart ++ c.foundation.chars) :: c.component.chars :: c.transport.chars ::
    c.priority.chars :: c.address.chars :: c.port.chars :: "typ".toList :: c.type.word ::
    relatedWords c.related

def chars (c : CandidateLine) : List Char := [' '].intercalate c.words

end CandidateLine

/-! ## The type that a line names -/

theorem Digits.notMem (d : Digits) {c : Char} (hc : c.isDigit = false) : c ∉ d.chars :=
  fun h => Bool.noConfusion (hc.symm.trans (d.areDigits c h))

theorem Digits.not_suffix (d : Digits) : ¬"typ".toList <:+ d.chars :=
  fun h => d.notMem (c := 'p') rfl (h.subset (by decide))

theorem CandidateType.unspaced_word (type : CandidateType) : ' ' ∉ type.word := by
  cases type <;> decide

theorem CandidateType.exists_mem_word (type : CandidateType) :
    ∃ c ∈ type.word, c.isDigit = false := by
  cases type
  case host => exact ⟨'h', by decide⟩
  case reflexive => exact ⟨'s', by decide⟩
  case peerReflexive => exact ⟨'p', by decide⟩
  case relayed => exact ⟨'r', by decide⟩

theorem CandidateType.word_prefix_word_iff {type type' : CandidateType} :
    type.word <+: type'.word ↔ type = type' := by
  cases type <;> cases type' <;> decide

theorem Digits.not_prefix (d : Digits) (type : CandidateType) : ¬type.word <+: d.chars := by
  obtain ⟨c, hc, hdigit⟩ := type.exists_mem_word
  exact fun h => d.notMem hdigit (h.subset hc)

namespace CandidateLine

variable (c : CandidateLine)

theorem unspaced_words : ∀ w ∈ c.words, ' ' ∉ w := by
  have hhead : ' ' ∉ Tally.lineStart ++ c.foundation.chars := by
    simp only [List.mem_append, c.foundation.unspaced, or_false]
    decide
  have hrelated : ∀ w ∈ relatedWords c.related, ' ' ∉ w := by
    cases c.related with
    | none => exact fun _ hw => absurd hw List.not_mem_nil
    | some related =>
      simp only [relatedWords, List.forall_mem_cons]
      exact ⟨by decide, related.1.unspaced, by decide, related.2.notMem rfl,
        fun _ hw => absurd hw List.not_mem_nil⟩
  simp only [words, List.forall_mem_cons]
  exact ⟨hhead, c.component.notMem rfl, c.transport.unspaced, c.priority.notMem rfl,
    c.address.unspaced, c.port.notMem rfl, by decide, c.type.unspaced_word, hrelated⟩

/-- The words from the type on name no type after `typ`. -/
theorem not_prefix_of_pair_behind {s t : List Char} {type : CandidateType}
    (h : [s, t] <:+: c.type.word :: relatedWords c.related) (hs : "typ".toList <:+ s) :
    ¬type.word <+: t := by
  cases hrelated : c.related with
  | none =>
    rw [hrelated] at h
    exact absurd h Text.not_pair_infix_singleton
  | some related =>
    simp only [hrelated, relatedWords, Text.pair_infix_cons_cons] at h
    rcases h with ⟨rfl, -⟩ | ⟨rfl, -⟩ | ⟨-, rfl⟩ | ⟨rfl, -⟩ | h
    · cases htype : c.type <;> rw [htype] at hs <;> exact absurd hs (by decide)
    · exact absurd hs (by decide)
    · cases type <;> decide
    · exact absurd hs (by decide)
    · exact absurd h Text.not_pair_infix_singleton

/-- Of two words that follow each other, one is a number, unless they tell the type or stand
behind it. -/
theorem type_eq_of_pair {s t : List Char} {type : CandidateType} (h : [s, t] <:+: c.words)
    (hs : "typ".toList <:+ s) (ht : type.word <+: t) : c.type = type := by
  simp only [words, Text.pair_infix_cons_cons] at h
  rcases h with ⟨-, rfl⟩ | ⟨rfl, -⟩ | ⟨-, rfl⟩ | ⟨rfl, -⟩ | ⟨-, rfl⟩ | ⟨rfl, -⟩ | ⟨-, rfl⟩ | h
  · exact absurd ht (c.component.not_prefix type)
  · exact absurd hs c.component.not_suffix
  · exact absurd ht (c.priority.not_prefix type)
  · exact absurd hs c.priority.not_suffix
  · exact absurd ht (c.port.not_prefix type)
  · exact absurd hs c.port.not_suffix
  · exact (CandidateType.word_prefix_word_iff.1 ht).symm
  · exact absurd ht (c.not_prefix_of_pair_behind h hs)

theorem names_iff (type : CandidateType) : type.naming <:+: c.chars ↔ c.type = type := by
  have hpairs := Text.infix_intercalate_iff_of_across (a := "typ".toList) (b := type.word)
    (by decide) type.unspaced_word c.unspaced_words
  refine hpairs.trans ⟨fun ⟨s, t, h, hs, ht⟩ => c.type_eq_of_pair h hs ht, ?_⟩
  rintro rfl
  refine ⟨"typ".toList, c.type.word, ?_, List.suffix_rfl, List.prefix_rfl⟩
  exact List.infix_append' [_, _, _, _, _, _] ["typ".toList, c.type.word] _

theorem lineStart_prefix : Tally.lineStart <+: c.chars := by
  rw [chars, words, List.intercalate_cons_cons, List.append_assoc, List.append_assoc]
  exact List.prefix_append _ _

end CandidateLine

end RtpBridge.Ice
