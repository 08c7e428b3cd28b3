-- SUMMARY: A tally is the sum of what the lines count, and its warning overlooks some candidates.
import RtpBridge.Proofs.Ice.CandidateLine
import RtpBridge.Proofs.Text.Lines

/-!
# Candidate tallies: laws

The tally of a text is the sum of what its lines count, in whatever order they stand and whatever
ends them, and the line of a candidate counts for the type that it is of and for no other
(`Tally.counts_each_line`). There is no count for candidates that only a peer sees, so a text with
these alone is warned about as one without candidates (`Tally.warns_iff`).
-/

namespace RtpBridge.Ice

open Text (Line LineEnd IsMadeOf)

namespace Tally

/-! ## What a line counts -/

theorem isCandidateLine_iff {line : List Char} : isCandidateLine line ↔ lineStart <+: line :=
  List.isPrefixOf_iff_prefix

/-- A line counts for the first of the three types that it names. -/
theorem ofLine_eq (line : List Char) :
    ofLine line =
      if !isCandidateLine line then zero
      else if Text.contains CandidateType.host.naming line then CandidateType.host.share
      else if Text.contains CandidateType.reflexive.naming line then CandidateType.reflexive.share
      else if Text.contains CandidateType.relayed.naming line then CandidateType.relayed.share
      else zero := rfl

theorem ofLine_of_not_candidate {line : List Char} (h : ¬lineStart <+: line) :
    ofLine line = zero := by
  have hline : isCandidateLine line = false := Bool.eq_false_iff.2 (mt isCandidateLine_iff.1 h)
  rw [ofLine_eq, hline]
  rfl

/-- A line that is told as a candidate counts for the type of the candidate. -/
theorem ofLine_chars (c : CandidateLine) : ofLine c.chars = c.type.share := by
  have hline : isCandidateLine c.chars := isCandidateLine_iff.2 c.lineStart_prefix
  simp only [ofLine_eq, hline, Text.contains_iff, c.names_iff]
  cases c.type <;> rfl

/-- A carriage return at the end of a line does not show in what the line counts. -/
theorem ofLine_dropReturn (line : List Char) : ofLine (Text.dropReturn line) = ofLine line := by
  rcases Text.eq_dropReturn_or line with h | h
  · rw [← h]
  · have hcontains (p : List Char) (hp : '\r' ∉ p) (hne : p ≠ []) :
        Text.contains p line = Text.contains p (Text.dropReturn line) := by
      rw [Bool.eq_iff_iff, Text.contains_iff, Text.contains_iff]
      conv_lhs => rw [h]
      rw [Text.infix_append_cons_iff hp, List.infix_nil, or_iff_left hne]
    have hstart : isCandidateLine line = isCandidateLine (Text.dropReturn line) := by
      rw [Bool.eq_iff_iff, isCandidateLine_iff, isCandidateLine_iff]
      conv_lhs => rw [h]
      exact Text.prefix_append_cons_iff (by decide)
    rw [ofLine_eq, ofLine_eq, hstart, hcontains _ (by decide) (by decide),
      hcontains _ (by decide) (by decide), hcontains _ (by decide) (by decide)]

/-! ## Sums of tallies -/

instance : Zero Tally := ⟨zero⟩

instance : AddCommMonoid Tally where
  zero_add := zero_add
  add_zero t := by
    cases t
    rfl
  add_assoc := add_assoc
  add_comm a b := by
    cases a; cases b
    simp only [add_mk, Nat.add_comm]
  nsmul := nsmulRec

theorem ofText_eq_sum (text : List Char) : ofText text = ((Text.lines text).map ofLine).sum := rfl

theorem ofText_of_isMadeOf {ls : List Line} {text : List Char} (h : IsMadeOf ls text) :
    ofText text = (ls.map fun l => ofLine l.chars).sum := by
  rw [ofText_eq_sum]
  exact h.sum_lines rfl ofLine_dropReturn

/-- A text counts what its lines count together, so where it is cut between two lines, in what
order they stand and what ends them does not matter. A line that does not begin as a candidate's
counts nothing, and one that tells a candidate counts for the type of that candidate. -/
theorem counts_each_line :
    (∀ ls text, IsMadeOf ls text → ofText text = (ls.map fun l => ofLine l.chars).sum) ∧
    (∀ text rest, (∀ c ∈ text.getLast?, c = '\n') →
      ofText (text ++ rest) = ofText text + ofText rest) ∧
    (∀ ls ls' text text', ls.Perm ls' → IsMadeOf ls text → IsMadeOf ls' text' →
      ofText text = ofText text') ∧
    (∀ line, ¬lineStart <+: line → ofLine line = 0) ∧
    ∀ c : CandidateLine, ofLine c.chars = c.type.share := by
  refine ⟨fun _ _ => ofText_of_isMadeOf, ?additive, ?unordered,
    fun _ => ofLine_of_not_candidate, ofLine_chars⟩
  case additive =>
    intro text rest hend
    simp only [ofText_eq_sum, Text.lines_append hend, List.map_append, List.sum_append]
  case unordered =>
    intro ls ls' text text' hls h h'
    rw [ofText_of_isMadeOf h, ofText_of_isMadeOf h']
    exact (hls.map _).sum_eq

/-- A relayed candidate whose other words hold `typ` and the words of other types. -/
def disguised : CandidateLine where
  foundation := ⟨"typ".toList, by decide⟩
  component := ⟨"1".toList, by decide, List.all_eq_true.1 rfl⟩
  transport := ⟨"hosttyp".toList, by decide⟩
  priority := ⟨"1".toList, by decide, List.all_eq_true.1 rfl⟩
  address := ⟨"srflxtyp".toList, by decide⟩
  port := ⟨"9".toList, by decide, List.all_eq_true.1 rfl⟩
  type := .relayed
  related := some (⟨"typ".toList, by decide⟩, ⟨"0".toList, by decide, List.all_eq_true.1 rfl⟩)

/-- The candidate, in between two lines of other kinds. -/
def disguisedLines : List Line :=
  [⟨"v=0".toList, by decide⟩, ⟨disguised.chars, by decide⟩, ⟨" a=candidate:".toList, by decide⟩]

def disguisedText : List Char :=
  ("v=0\r\na=candidate:typ 1 hosttyp 1 srflxtyp 9 typ relay raddr typ rport 0\n" ++
    " a=candidate:").toList

/-- A text whose lines have three kinds of end counts the one candidate that it has. -/
theorem counts_each_line_disguised :
    IsMadeOf disguisedLines disguisedText ∧ ofText disguisedText = ⟨0, 0, 1⟩ := by
  have hmade : IsMadeOf disguisedLines _ := .ended _ .returnFeed (.ended _ .feed (.last _))
  have htext : disguisedText = "v=0".toList ++ (LineEnd.returnFeed.chars ++ (disguised.chars ++
      (LineEnd.feed.chars ++ " a=candidate:".toList))) := by decide
  obtain ⟨hsum, -, -, hother, hcandidate⟩ := counts_each_line
  refine ⟨htext ▸ hmade, ?_⟩
  rw [htext, hsum _ _ hmade]
  simp only [disguisedLines, List.map_cons, List.map_nil, hcandidate disguised,
    hother "v=0".toList (by decide), hother " a=candidate:".toList (by decide)]
  rfl

/-! ## The warning -/

/-- What is logged about a tally without candidates. -/
def noCandidates : Log.Entry :=
  .warn "Answer carries no ICE candidates, the remote peer cannot reach us"

theorem noCandidates_mem_log_iff (t : Tally) : noCandidates ∈ t.log ↔ t.total = 0 := by
  have hlevel : Log.Level.warn ≠ Log.Level.info := by decide
  have hinfo (text : String) : noCandidates ≠ .info text :=
    fun h => hlevel (congrArg Log.Entry.level h)
  rw [log, List.mem_cons, or_iff_right (hinfo _)]
  split
  · next h => exact iff_of_true (List.mem_singleton.2 rfl) h
  · next h => exact iff_of_false List.not_mem_nil h

theorem total_add (s t : Tally) : (s + t).total = s.total + t.total := by
  cases s; cases t
  simp only [add_mk, total]
  omega

theorem total_sum_eq_zero_iff {ts : List Tally} : ts.sum.total = 0 ↔ ∀ t ∈ ts, t.total = 0 := by
  induction ts with
  | nil => exact iff_of_true rfl fun _ h => absurd h List.not_mem_nil
  | cons t ts ih => rw [List.sum_cons, total_add, Nat.add_eq_zero_iff, ih, List.forall_mem_cons]

/-- That a line begins as a candidate's and names one of the types that have a count. -/
def IsCounted (line : List Char) : Prop :=
  lineStart <+: line ∧ ∃ type : CandidateType, type ≠ .peerReflexive ∧ type.naming <:+: line

theorem total_ofLine_eq_zero_iff (line : List Char) :
    (ofLine line).total = 0 ↔ ¬IsCounted line := by
  by_cases hline : lineStart <+: line
  · have counted {type : CandidateType} (hne : type ≠ .peerReflexive)
        (h : Text.contains type.naming line) : ¬¬IsCounted line :=
      not_not.2 ⟨hline, type, hne, Text.contains_iff.1 h⟩
    rw [ofLine_eq, isCandidateLine_iff.2 hline]
    split
    · contradiction
    · split
      · next hhost => exact iff_of_false (by decide) (counted (by decide) hhost)
      · next hhost =>
        split
        · next hreflexive => exact iff_of_false (by decide) (counted (by decide) hreflexive)
        · next hreflexive =>
          split
          · next hrelayed => exact iff_of_false (by decide) (counted (by decide) hrelayed)
          · next hrelayed =>
            refine iff_of_true rfl fun ⟨_, type, hne, hnamed⟩ => ?_
            rw [← Text.contains_iff] at hnamed
            cases type
            case host => exact hhost hnamed
            case reflexive => exact hreflexive hnamed
            case peerReflexive => exact hne rfl
            case relayed => exact hrelayed hnamed
  · rw [ofLine_of_not_candidate hline]
    exact iff_of_true rfl fun h => hline h.1

/-- That a text has candidates and none of them counts. -/
structure Misleads (text : List Char) : Prop where
  hasCandidate : ∃ line ∈ Text.lines text, lineStart <+: line
  uncounted : ∀ line ∈ Text.lines text, ¬IsCounted line

/-- There is a warning just when no line of a text begins as a candidate's, or some do and none of
these counts. The line of a candidate counts unless only the peer sees the candidate. -/
theorem warns_iff (text : List Char) :
    (noCandidates ∈ (ofText text).log ↔
      (∀ line ∈ Text.lines text, ¬lineStart <+: line) ∨ Misleads text) ∧
    ∀ c : CandidateLine, IsCounted c.chars ↔ c.type ≠ .peerReflexive := by
  have hwarns : noCandidates ∈ (ofText text).log ↔ ∀ line ∈ Text.lines text, ¬IsCounted line := by
    rw [noCandidates_mem_log_iff, ofText_eq_sum, total_sum_eq_zero_iff, List.forall_mem_map]
    exact forall₂_congr fun line _ => total_ofLine_eq_zero_iff line
  refine ⟨hwarns.trans ⟨fun h => ?_, ?_⟩, fun c => ?_⟩
  · by_cases hcandidate : ∃ line ∈ Text.lines text, lineStart <+: line
    · exact .inr ⟨hcandidate, h⟩
    · exact .inl fun line hline hstart => hcandidate ⟨line, hline, hstart⟩
  · rintro (h | h)
    · exact fun line hline hcounted => h line hline hcounted.1
    · exact h.uncounted
  · simp only [IsCounted, c.lineStart_prefix, true_and, c.names_iff]
    exact ⟨fun ⟨type, hne, htype⟩ => htype ▸ hne, fun hne => ⟨c.type, hne, rfl⟩⟩

/-- A description with one candidate, of the type without a count. -/
def peerReflexiveText : List Char :=
  "v=0\r\na=candidate:1 1 udp 1 192.0.2.1 9 typ prflx raddr 192.0.2.2 rport 9\r\n".toList

/-- The warning says that there is no candidate where there is one. -/
theorem warns_despite_candidate :
    noCandidates ∈ (ofText peerReflexiveText).log ∧
      ∃ line ∈ Text.lines peerReflexiveText, lineStart <+: line := by
  decide +kernel

end Tally

end RtpBridge.Ice
