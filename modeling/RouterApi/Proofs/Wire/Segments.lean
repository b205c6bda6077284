import RouterApi.Reply
import RouterApi.Proofs.Wire.Fragments

/-!
# Segments of a stream

The sentences of a stream are cut after each terminal one. Each segment is the answer to one
command; the last one is not complete, and may be empty. A decoder leads to another one by handing
out sentences, and still does so when more bytes follow.
-/

namespace RouterApi

/-- Sentences cut after each terminal one. -/
def segments : List Sentence → List (List Sentence)
  | [] => [[]]
  | sentence :: later =>
      if sentence.isTerminal then [sentence] :: segments later
      else (segments later).modifyHead (sentence :: ·)

/-- A segment is complete if it ends with its only terminal sentence. -/
def IsComplete (segment : List Sentence) : Prop :=
  ∃ earlier last, segment = earlier ++ [last] ∧
    (∀ sentence ∈ earlier, sentence.isTerminal = false) ∧ last.isTerminal = true

variable {segment sentences : List Sentence}

theorem IsComplete.cons
    {sentence : Sentence}
    (goesOn : sentence.isTerminal = false)
    (complete : IsComplete segment) :
    IsComplete (sentence :: segment) := by
  obtain ⟨earlier, last, rfl, nonterminal, terminal⟩ := complete
  exact ⟨sentence :: earlier, last, rfl, List.forall_mem_cons.mpr ⟨goesOn, nonterminal⟩, terminal⟩

theorem segments_ne_nil (sentences : List Sentence) : segments sentences ≠ [] := by
  induction sentences with
  | nil => simp [segments]
  | cons sentence later inductionHypothesis =>
      unfold segments
      split
      · simp
      · cases rest : segments later with
        | nil => exact absurd rest inductionHypothesis
        | cons first others => simp

/-- No sentence is lost or duplicated by cutting. -/
theorem flatten_segments (sentences : List Sentence) :
    (segments sentences).flatten = sentences := by
  induction sentences with
  | nil => rfl
  | cons sentence later inductionHypothesis =>
      unfold segments
      split
      · simp [inductionHypothesis]
      · cases rest : segments later with
        | nil => exact absurd rest (segments_ne_nil later)
        | cons first others =>
            rw [rest] at inductionHypothesis
            simp [← inductionHypothesis]

/-- Sentences without a terminal one are a single segment. -/
theorem segments_of_nonterminal
    (nonterminal : ∀ sentence ∈ sentences, sentence.isTerminal = false) :
    segments sentences = [sentences] := by
  induction sentences with
  | nil => rfl
  | cons sentence later inductionHypothesis =>
      obtain ⟨goesOn, goesOnLater⟩ := List.forall_mem_cons.mp nonterminal
      rw [segments, if_neg (by simp [goesOn]), inductionHypothesis goesOnLater]
      rfl

/-- What follows a complete segment is cut on its own. -/
theorem segments_append
    (complete : IsComplete segment)
    (later : List Sentence) :
    segments (segment ++ later) = segment :: segments later := by
  obtain ⟨earlier, last, rfl, nonterminal, terminal⟩ := complete
  induction earlier with
  | nil => simp [segments, terminal]
  | cons sentence earlier inductionHypothesis =>
      obtain ⟨goesOn, goesOnLater⟩ := List.forall_mem_cons.mp nonterminal
      rw [List.cons_append, List.cons_append, segments, if_neg (by simp [goesOn]),
        inductionHypothesis goesOnLater]
      rfl

theorem segments_flatten_append
    {complete : List (List Sentence)}
    (areComplete : ∀ segment ∈ complete, IsComplete segment)
    (later : List Sentence) :
    segments (complete.flatten ++ later) = complete ++ segments later := by
  induction complete with
  | nil => rfl
  | cons segment rest inductionHypothesis =>
      obtain ⟨first, others⟩ := List.forall_mem_cons.mp areComplete
      rw [List.flatten_cons, List.append_assoc, segments_append first, inductionHypothesis others]
      rfl

/-- A segment with a terminal sentence at its end is not without one. -/
theorem not_isComplete_of_nonterminal
    (nonterminal : ∀ sentence ∈ segment, sentence.isTerminal = false) :
    ¬ IsComplete segment := by
  rintro ⟨earlier, last, rfl, -, terminal⟩
  have goesOn := nonterminal last (by simp)
  rw [terminal] at goesOn
  contradiction

/-- The complete sentences of a decoder. -/
def sentencesIn (decoder : Wire.Decoder) : List Sentence :=
  decoder.drain.1.map Sentence.ofTexts

namespace Wire
namespace Decoder

/-- A decoder leads to another one by handing out sentences. -/
inductive Leads : Decoder → List (List Text) → Decoder → Prop
  | refl {decoder} :
      Leads decoder [] decoder
  | step {decoder next rest words contents}
      (found : decoder.next = .ok (some (words, next)))
      (later : Leads next contents rest) :
      Leads decoder (words :: contents) rest

variable {decoder middle rest : Decoder} {contents others : List (List Text)} {ending : Ending}

theorem Leads.trans
    (earlier : Leads decoder contents middle)
    (later : Leads middle others rest) :
    Leads decoder (contents ++ others) rest := by
  induction earlier with
  | refl => exact later
  | step found _ inductionHypothesis => exact .step found (inductionHypothesis later)

/-- The same sentences are handed out when more bytes follow, which stay in the buffer. -/
theorem Leads.feed
    (leads : Leads decoder contents rest)
    (more : Bytes) :
    Leads (decoder.feed more) contents (rest.feed more) := by
  induction leads with
  | refl => exact .refl
  | step found _ inductionHypothesis =>
      exact .step (next_feed_of_some found more) inductionHypothesis

/-- What a decoder leads to is drained after it. -/
theorem Leads.drains
    (leads : Leads decoder contents rest)
    (drains : Drains rest others ending) :
    Drains decoder (contents ++ others) ending := by
  induction leads with
  | refl => exact drains
  | step found _ inductionHypothesis => exact .sentence found (inductionHypothesis drains)

theorem sentencesIn_of_drains (drains : Drains decoder contents ending) :
    sentencesIn decoder = contents.map Sentence.ofTexts := by
  rw [sentencesIn, drain_eq_iff.mpr drains]

theorem sentencesIn_of_leads (leads : Leads decoder contents rest) :
    sentencesIn decoder = contents.map Sentence.ofTexts ++ sentencesIn rest := by
  rw [sentencesIn_of_drains (leads.drains (drains_drain rest)), List.map_append, sentencesIn]

/-- What a decoder leads to is determined by the sentences handed out. -/
theorem Leads.unique
    (leads : Leads decoder contents rest)
    (otherLeads : Leads decoder contents middle) :
    rest = middle := by
  induction leads with
  | refl =>
      cases otherLeads
      rfl
  | step found _ inductionHypothesis =>
      cases otherLeads with
      | step otherFound later =>
          cases found.symm.trans otherFound
          exact inductionHypothesis later

theorem Leads.encoding_eq (leads : Leads decoder contents rest) :
    rest.encoding = decoder.encoding := by
  induction leads with
  | refl => rfl
  | step found _ inductionHypothesis => exact inductionHypothesis.trans (encoding_next found)

end Decoder
end Wire
end RouterApi
