import RouterApi.Proofs.Client.Expecting
import RouterApi.Proofs.Wire.TagWords

/-!
# Both modes agree

A synchronous client reads the answer to a command itself. An asynchronous one gives the command a
tag, and leaves its answer to the reader. If the answers only differ in that tag, both commands have
the same outcome, in whatever way the stream ends.
-/

namespace RouterApi

open Wire.Decoder (Drains drains_drain)

namespace Client

variable {client other : Client} {words : List Text}

/-- The outcome of a command is made up by the sentences that are there for it. -/
theorem IsReady.run_eq_answerOf
    (ready : client.IsReady)
    (canEncode : client.CanEncode words)
    {contents : List (List Text)}
    {ending : Wire.Decoder.Ending}
    (drains : Drains (client.available 1) contents ending) :
    (client.run (words.map .text)).1 = answerOf {} ending (contents.map Sentence.ofTexts) := by
  obtain ⟨data, encoded⟩ := canEncode
  have conducts := ready.conducts encoded drains
  generalize client.run (words.map .text) = result at conducts
  cases conducts with
  | answered contents_eq complete =>
      rw [contents_eq, List.map_append, answerOf_append complete]
  | broken nonterminal breaksOff =>
      rw [answerOf_of_nonterminal nonterminal, breaksOff.error_eq]

/-- The outcome of a command that is waited for while chunks arrive, until the device hangs up. -/
def runUntilHungUp
    (words : List Word)
    (chunks : List Chunk)
    (client : Client) : Outcome Reply :=
  match client.runAsync words none none with
  | (.error error, _) => .raised error
  | (.ok number, after) => (after.receive chunks).2.hangUp.await number

/-- Sentences with a tag belong to it. -/
theorem belongsTo_of_tagging
    (tag : Text)
    (contents : List (List Text)) :
    ∀ sentence ∈ (contents.map (tagging tag)).map Sentence.ofTexts, BelongsTo tag sentence := by
  intro sentence member
  rw [List.map_map] at member
  obtain ⟨texts, -, rfl⟩ := List.mem_map.mp member
  by_cases nonempty : texts = []
  · subst nonempty
    exact .inl rfl
  · exact .inr (tag_tagging nonempty tag)

/-- A command has the same outcome in both modes, if the asynchronous client reads the sentences
that the synchronous one reads, with its tag added to each. Both return replies that say the same,
or both raise errors that say the same, of the same kind and with the same message. The asynchronous
command only waits for the device as long as its answer is unfinished. -/
theorem content_run_eq
    (ready : client.IsReady)
    (attentive : other.IsAttentive)
    (encoding_eq : other.link.decoder.encoding = client.link.decoder.encoding)
    (canEncode : client.CanEncode words)
    (fits : (Word.ofTag (.text other.nextTag)).length ≤ LengthPrefix.maximum)
    {chunks : List Chunk}
    (smooth : ∀ chunk ∈ chunks, chunk.IsSmooth)
    {contents : List (List Text)}
    {ending otherEnding : Wire.Decoder.Ending}
    (drains : Drains (client.available 1) contents ending)
    (otherDrains :
      Drains (other.heard chunks) (contents.map (tagging other.nextTag)) otherEnding)
    (alike : AreAlike ending otherEnding) :
    (∃ said, (client.run (words.map .text)).1.content = some said ∧
      (other.runUntilHungUp (words.map .text) chunks).content = some said) ∧
    ((other.run (words.map .text)).1 = other.runUntilHungUp (words.map .text) chunks ∨
      (other.run (words.map .text)).1 = .waiting ∧ IsUnfinished (other.heard [])) := by
  obtain ⟨charset, isKnown⟩ := ready.isKnown
  obtain ⟨data, encoded⟩ := canEncode
  obtain ⟨taggedData, taggedEncoded⟩ := exists_encodeSentence_tagged isKnown encoded fits
  rw [← encoding_eq] at taggedEncoded
  obtain ⟨number, after, started, lastly, now⟩ := attentive.hasAnswer taggedEncoded smooth
    otherDrains (belongsTo_of_tagging other.nextTag contents)
  have final_eq : other.runUntilHungUp (words.map .text) chunks =
      answerOf {} otherEnding
        ((contents.map (tagging other.nextTag)).map Sentence.ofTexts) := by
    rw [runUntilHungUp, started]
    exact lastly.await_eq
  have run_eq : (other.run (words.map .text)).1 = after.await number := by
    simp only [run, attentive.asynchronous, started, if_true]
  refine ⟨?_, ?_⟩
  · rw [ready.run_eq_answerOf ⟨data, encoded⟩ drains, final_eq]
    refine content_answerOf alike rfl ?_
    rw [List.map_map, List.map_map, List.map_map]
    exact List.map_congr_left fun texts _ => (content_tagging other.nextTag texts).symm
  · rw [run_eq, final_eq]
    rcases now with hasAnswer | waiting
    · exact .inl hasAnswer.await_eq
    · exact .inr waiting

/-! ## A trap in both modes -/

/-- An asynchronous connection whose commands are answered in given chunks. -/
def attending (answers : List (List Bytes)) : Client :=
  (receiving answers).modifyLink ({ · with isAsynchronous := true, reader := .reading })

theorem isAttentive_attending (answers : List (List Bytes)) : (attending answers).IsAttentive where
  isOpen := rfl
  asynchronous := rfl
  reading := rfl
  sound := Session.isSound_of_pending_eq_nil rfl
  working := rfl
  free := rfl
  incomplete := Wire.Decoder.next_fresh _
  atRest := ⟨List.forall_mem_nil _, rfl, rfl⟩
  answers := (isReady_receiving answers).smooth.script
  isKnown := (isReady_receiving answers).isKnown

/-- The answer to a command: data, a trap, and the end of the reply. -/
def trapAnswer : List (List Text) :=
  [[literal "!re", literal "=a=b"], [literal "!trap", literal "=message=no"], [literal "!done"]]

/-- A connection that gives this answer in one chunk. -/
def trapped : Client :=
  receiving [[[
    3, 33, 114, 101, 4, 61, 97, 61, 98, 0, 5, 33, 116, 114, 97, 112, 11, 61, 109, 101, 115, 115,
    97, 103, 101, 61, 110, 111, 0, 5, 33, 100, 111, 110, 101, 0]]]

/-- A connection that gives this answer with a tag, in two chunks. -/
def trappedTagged : Client :=
  attending [[
    [3, 33, 114, 101, 4, 61, 97, 61, 98, 6, 46, 116, 97, 103, 61, 49, 0, 5, 33, 116],
    [114, 97, 112, 11, 61, 109, 101, 115, 115, 97, 103, 101, 61, 110, 111, 6, 46, 116, 97, 103,
     61, 49, 0, 5, 33, 100, 111, 110, 101, 6, 46, 116, 97, 103, 61, 49, 0]]]

theorem content_run_trapped :
    (∃ said, (trapped.run [.text (literal "/x")]).1.content = some said ∧
      (trappedTagged.runUntilHungUp [.text (literal "/x")] []).content = some said) ∧
    ((trappedTagged.run [.text (literal "/x")]).1 =
        trappedTagged.runUntilHungUp [.text (literal "/x")] [] ∨
      (trappedTagged.run [.text (literal "/x")]).1 = .waiting ∧
        IsUnfinished (trappedTagged.heard [])) := by
  have canEncode : trapped.CanEncode [literal "/x"] := ⟨_, rfl⟩
  have drains : Drains (trapped.available 1) trapAnswer
      (.ok { encoding := .text Charset.utf8.commonName }) := Wire.Decoder.drain_eq_iff.mp rfl
  have otherDrains : Drains (trappedTagged.heard [])
      (trapAnswer.map (tagging trappedTagged.nextTag))
      (.ok { encoding := .text Charset.utf8.commonName }) := Wire.Decoder.drain_eq_iff.mp rfl
  exact content_run_eq (isReady_receiving _) (isAttentive_attending _) rfl canEncode (by decide)
    (List.forall_mem_nil _) drains otherDrains (.exhausted rfl)

end Client
end RouterApi
