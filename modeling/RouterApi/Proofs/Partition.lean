import RouterApi.Proofs.Client.Answering
import RouterApi.Proofs.Client.Receiving

/-!
# Synchronous commands partition the stream

The answers to the commands of a synchronous client are the consecutive segments of what its stream
is decoded to, one for each command, however the bytes are cut into chunks.
-/

namespace RouterApi

open Wire.Decoder (Leads Drains drains_drain)

namespace Client

variable {client after other : Client} {words : List Text} {commands : List (List Text)}

/-- The client after several commands. -/
def runAll
    (commands : List (List Text))
    (client : Client) : Client :=
  commands.foldl (fun client words => (client.run (words.map .text)).2) client

/-! ## Closed connections -/

/-- A ready client closes its stream once more when it closes, and keeps its mode. -/
theorem IsReady.isPlain (ready : client.IsReady) : client.IsPlain client.link.stream.closes where
  synchronous := ready.synchronous
  readerless := ready.readerless
  closes_eq := by rw [ready.isOpen, Bool.toNat_false, Nat.add_zero]

/-- A command on a closed synchronous connection changes nothing. -/
theorem run_of_closed
    (isClosed : client.link.isClosed = true)
    (synchronous : client.link.isAsynchronous = false)
    (words : List Word) :
    (client.run words).2 = client := by
  unfold run runSync write
  simp only [synchronous, isClosed]
  cases Wire.encodeSentence client.link.decoder.encoding words <;> rfl

theorem runAll_of_closed
    (isClosed : client.link.isClosed = true)
    (synchronous : client.link.isAsynchronous = false)
    (commands : List (List Text)) :
    runAll commands client = client := by
  induction commands with
  | nil => rfl
  | cons words later inductionHypothesis =>
      rw [runAll, List.foldl_cons, run_of_closed isClosed synchronous]
      exact inductionHypothesis

/-- A client that is open after several commands was open after the first. -/
theorem IsReady.isOpen_run
    (ready : client.IsReady)
    (isOpen : (runAll (words :: commands) client).link.isClosed = false) :
    (client.run (words.map .text)).2.link.isClosed = false := by
  have plain := (ready.isPlain.run (words.map .text)).plain
  cases isClosed : (client.run (words.map .text)).2.link.isClosed with
  | false => rfl
  | true =>
      have same : (runAll (words :: commands) client) = (client.run (words.map .text)).2 :=
        runAll_of_closed isClosed plain.synchronous commands
      rw [same, isClosed] at isOpen
      contradiction

/-! ## Runs of commands -/

/-- A client has passed over segments if they have been handed out for as many commands, whatever
is answered later. -/
structure HasPassed
    (client : Client)
    (passed : List (List (List Text)))
    (after : Client) : Prop where
  ready : after.IsReady
  areComplete : ∀ segment ∈ passed, IsComplete (segment.map Sentence.ofTexts)
  leads : ∀ count, Leads (client.available (passed.length + count)) passed.flatten
    (after.available count)

/-- What has been consumed by a command stays consumed when more is answered. -/
theorem available_leads
    {segment : List (List Text)}
    (answered_succ : ∀ count,
      client.answered (count + 1) = client.answered 1 ++ after.answered count)
    (leads : Leads (client.available 1) segment after.remaining)
    (count : Nat) :
    Leads (client.available (1 + count)) segment (after.available count) := by
  have further := leads.feed (after.answered count)
  rw [available, ← Wire.Decoder.feed_append, ← answered_succ, Nat.add_comm] at further
  exact further

/-- A command that leaves a ready client open has passed over one segment. -/
theorem IsReady.hasPassed_run
    (ready : client.IsReady)
    (canEncode : client.CanEncode words)
    (isOpen : (client.run (words.map .text)).2.link.isClosed = false) :
    ∃ segment, client.HasPassed [segment] (client.run (words.map .text)).2 := by
  obtain ⟨data, encoded⟩ := canEncode
  have conducts := ready.conducts encoded (drains_drain _)
  generalize client.run (words.map .text) = result at conducts isOpen
  cases conducts with
  | broken nonterminal breaksOff =>
      rw [breaksOff.isClosed] at isOpen
      contradiction
  | @answered segment later after contents_eq complete open_iff stillReady answered_succ leads =>
      refine ⟨segment, stillReady isOpen, ?_, fun count => ?_⟩
      · intro other member
        rw [List.mem_singleton.mp member]
        exact complete
      · rw [List.flatten_singleton]
        exact available_leads answered_succ leads count

theorem HasPassed.encoding_eq
    {passed : List (List (List Text))}
    (hasPassed : client.HasPassed passed after) :
    after.link.decoder.encoding = client.link.decoder.encoding :=
  (hasPassed.leads 0).encoding_eq

theorem HasPassed.trans
    {middle : Client}
    {passed others : List (List (List Text))}
    (earlier : client.HasPassed passed middle)
    (later : middle.HasPassed others after) :
    client.HasPassed (passed ++ others) after where
  ready := later.ready
  areComplete segment member := by
    rcases List.mem_append.mp member with first | second
    · exact earlier.areComplete segment first
    · exact later.areComplete segment second
  leads count := by
    rw [List.length_append, Nat.add_assoc, List.flatten_append]
    exact (earlier.leads _).trans (later.leads count)

/-- As long as a ready client stays open, each command passes over one segment. -/
theorem IsReady.hasPassed
    (ready : client.IsReady)
    (canEncode : ∀ command ∈ commands, client.CanEncode command)
    (isOpen : (runAll commands client).link.isClosed = false) :
    ∃ passed, passed.length = commands.length ∧
      client.HasPassed passed (runAll commands client) := by
  induction commands generalizing client with
  | nil =>
      refine ⟨[], rfl, ready, List.forall_mem_nil _, fun count => ?_⟩
      rw [List.length_nil, Nat.zero_add]
      exact .refl
  | cons words commands inductionHypothesis =>
      obtain ⟨first, others⟩ := List.forall_mem_cons.mp canEncode
      obtain ⟨segment, passed⟩ := ready.hasPassed_run first (ready.isOpen_run isOpen)
      obtain ⟨segments, length_eq, passedLater⟩ := inductionHypothesis passed.ready
        (fun command member => (others command member).of_encoding_eq passed.encoding_eq) isOpen
      refine ⟨segment :: segments, ?_, passed.trans passedLater⟩
      rw [List.length_cons, List.length_cons, length_eq]

/-! ## Chunks -/

/-- Two clients have the same bytes if the same can be read from them, now and after each answer, in
whatever chunks they arrive. -/
structure SameBytes (client other : Client) : Prop where
  remaining_eq : client.remaining = other.remaining
  answered_eq : ∀ count, client.answered count = other.answered count

theorem SameBytes.available_eq
    (same : client.SameBytes other)
    (count : Nat) :
    client.available count = other.available count := by
  rw [available, available, same.remaining_eq, same.answered_eq]

theorem SameBytes.encoding_eq (same : client.SameBytes other) :
    other.link.decoder.encoding = client.link.decoder.encoding :=
  (congrArg Wire.Decoder.encoding same.remaining_eq).symm

/-- Sentences that are cut into a complete segment and a rest are cut so in one way only. -/
theorem segment_unique
    {segment later otherSegment otherLater : List (List Text)}
    (complete : IsComplete (segment.map Sentence.ofTexts))
    (otherComplete : IsComplete (otherSegment.map Sentence.ofTexts))
    (same : segment ++ later = otherSegment ++ otherLater) :
    segment = otherSegment := by
  have cut := segments_append complete (later.map Sentence.ofTexts)
  rw [← List.map_append, same, List.map_append, segments_append otherComplete] at cut
  have length_eq := congrArg List.length (List.cons.inj cut).1
  rw [List.length_map, List.length_map] at length_eq
  exact (List.append_inj same length_eq.symm).1

/-- Without a terminal sentence there is no complete segment. -/
theorem not_isComplete_of_append
    {contents segment later : List (List Text)}
    (nonterminal : ∀ sentence ∈ contents.map Sentence.ofTexts, sentence.isTerminal = false)
    (contents_eq : contents = segment ++ later) :
    ¬ IsComplete (segment.map Sentence.ofTexts) := by
  refine not_isComplete_of_nonterminal fun sentence member => nonterminal sentence ?_
  rw [contents_eq, List.map_append]
  exact List.mem_append_left _ member

/-- Two runs agree if they have the same outcome, and leave both connections closed, or both open
with the same bytes. -/
structure RunsAgree (run otherRun : Outcome Reply × Client) : Prop where
  outcome_eq : otherRun.1 = run.1
  isClosed_eq : otherRun.2.link.isClosed = run.2.link.isClosed
  sameBytes : run.2.link.isClosed = false → run.2.SameBytes otherRun.2

/-- What a command comes to does not depend on the chunks. -/
theorem Conducts.runsAgree
    {contents : List (List Text)}
    {ending : Wire.Decoder.Ending}
    {run otherRun : Outcome Reply × Client}
    (same : client.SameBytes other)
    (conducts : Conducts client contents ending run)
    (otherConducts : Conducts other contents ending otherRun) :
    RunsAgree run otherRun := by
  cases conducts with
  | broken nonterminal breaksOff =>
      cases otherConducts with
      | answered contents_eq complete =>
          exact absurd complete (not_isComplete_of_append nonterminal contents_eq)
      | broken _ otherBreaksOff =>
          refine ⟨?_, ?_, fun isOpen => ?_⟩
          · rw [breaksOff.error_eq, otherBreaksOff.error_eq]
          · rw [breaksOff.isClosed, otherBreaksOff.isClosed]
          · rw [breaksOff.isClosed] at isOpen
            contradiction
  | @answered segment later after contents_eq complete open_iff ready answered_succ leads =>
      cases otherConducts with
      | broken nonterminal =>
          exact absurd complete (not_isComplete_of_append nonterminal contents_eq)
      | @answered otherSegment otherLater otherAfter otherContents_eq otherComplete otherOpen_iff
          otherReady otherSucc otherLeads =>
          have segment_eq : segment = otherSegment :=
            segment_unique complete otherComplete (contents_eq.symm.trans otherContents_eq)
          subst segment_eq
          refine ⟨rfl, ?_, fun _ => ⟨?_, fun count => ?_⟩⟩
          · rw [Bool.eq_iff_iff, ← not_iff_not]
            simp only [Bool.not_eq_true]
            exact otherOpen_iff.trans open_iff.symm
          · rw [← same.available_eq] at otherLeads
            exact leads.unique otherLeads
          · have whole := (answered_succ count).symm.trans (same.answered_eq (count + 1))
            rw [otherSucc, ← same.answered_eq] at whole
            exact List.append_cancel_left whole

/-- A command does the same to clients that have the same bytes. -/
theorem IsReady.runsAgree
    (ready : client.IsReady)
    (otherReady : other.IsReady)
    (same : client.SameBytes other)
    (canEncode : client.CanEncode words) :
    RunsAgree (client.run (words.map .text)) (other.run (words.map .text)) := by
  obtain ⟨otherData, otherEncoded⟩ := canEncode.of_encoding_eq same.encoding_eq
  obtain ⟨data, encoded⟩ := canEncode
  have otherDrains := drains_drain (client.available 1)
  rw [same.available_eq] at otherDrains
  exact Conducts.runsAgree same (ready.conducts encoded (drains_drain _))
    (same.available_eq 1 ▸ otherReady.conducts otherEncoded otherDrains)

/-- As long as they stay open, commands do the same to clients that have the same bytes. -/
theorem IsReady.sameBytes_runAll
    (ready : client.IsReady)
    (otherReady : other.IsReady)
    (same : client.SameBytes other)
    (canEncode : ∀ command ∈ commands, client.CanEncode command)
    (isOpen : (runAll commands client).link.isClosed = false) :
    (runAll commands other).link.isClosed = false ∧
      (runAll commands client).SameBytes (runAll commands other) := by
  induction commands generalizing client other with
  | nil => exact ⟨otherReady.isOpen, same⟩
  | cons words commands inductionHypothesis =>
      obtain ⟨first, others⟩ := List.forall_mem_cons.mp canEncode
      have stillOpen := ready.isOpen_run isOpen
      have agree := ready.runsAgree otherReady same first
      obtain ⟨segment, passed⟩ := ready.hasPassed_run first stillOpen
      obtain ⟨otherSegment, otherPassed⟩ := otherReady.hasPassed_run
        (first.of_encoding_eq same.encoding_eq) (agree.isClosed_eq.trans stillOpen)
      exact inductionHypothesis passed.ready otherPassed.ready (agree.sameBytes stillOpen)
        (fun command member => (others command member).of_encoding_eq passed.encoding_eq) isOpen

/-! ## The segment of a command -/

/-- A command takes the segment of its number if the sentences that are there for it start with that
segment, which stays so when more is answered. A complete segment is consumed, and its result is the
outcome; with an incomplete one, the client breaks off. -/
structure TakesSegment
    (client : Client)
    (number : Nat)
    (segment : List Sentence)
    (before : Client)
    (run : Outcome Reply × Client) : Prop where
  segment_eq : (segments (sentencesIn (client.available (number + 1))))[number]? = some segment
  before_eq : sentencesIn (before.available 1) =
    ((segments (sentencesIn (client.available (number + 1)))).drop number).flatten
  lasting : IsComplete segment → ∀ count, number < count →
    (segments (sentencesIn (client.available count)))[number]? = some segment
  consumed : IsComplete segment → ∃ contents, contents.map Sentence.ofTexts = segment ∧
    Leads (before.available 1) contents run.2.remaining
  returned : IsComplete segment → run.1 = outcomeOf (segment.foldl Reply.process {}).result
  open_iff : IsComplete segment → (run.2.link.isClosed = false ↔ LeavesOpen segment)
  broken : ¬ IsComplete segment → ∃ error, run.1 = .raised error ∧
    run.2.BreaksOff (client.available (number + 1)).drain.2 error

/-- The segments that a client has passed over come first. -/
theorem HasPassed.segments_eq
    {passed : List (List (List Text))}
    (hasPassed : client.HasPassed passed after)
    (count : Nat) :
    segments (sentencesIn (client.available (passed.length + count))) =
      passed.map (·.map Sentence.ofTexts) ++ segments (sentencesIn (after.available count)) := by
  have areComplete : ∀ segment ∈ passed.map (·.map Sentence.ofTexts), IsComplete segment := by
    intro segment member
    obtain ⟨contents, contentsMember, rfl⟩ := List.mem_map.mp member
    exact hasPassed.areComplete contents contentsMember
  rw [Wire.Decoder.sentencesIn_of_leads (hasPassed.leads count), List.map_flatten,
    segments_flatten_append areComplete]

theorem HasPassed.getElem?_segments
    {passed : List (List (List Text))}
    (hasPassed : client.HasPassed passed after)
    (count : Nat) :
    (segments (sentencesIn (client.available (passed.length + count))))[passed.length]? =
      (segments (sentencesIn (after.available count)))[0]? := by
  rw [hasPassed.segments_eq, List.getElem?_append_right (by simp),
    List.length_map, Nat.sub_self]

theorem HasPassed.drop_segments
    {passed : List (List (List Text))}
    (hasPassed : client.HasPassed passed after)
    (count : Nat) :
    ((segments (sentencesIn (client.available (passed.length + count)))).drop
      passed.length).flatten = sentencesIn (after.available count) := by
  rw [hasPassed.segments_eq, List.drop_left' (List.length_map _), flatten_segments]

/-- The command that follows passed segments takes the next one. -/
theorem HasPassed.takesSegment
    {passed : List (List (List Text))}
    (hasPassed : client.HasPassed passed after)
    (canEncode : after.CanEncode words) :
    ∃ segment, client.TakesSegment passed.length segment after (after.run (words.map .text)) := by
  obtain ⟨data, encoded⟩ := canEncode
  have drains := drains_drain (after.available 1)
  have conducts := hasPassed.ready.conducts encoded drains
  have sentences_eq := Wire.Decoder.sentencesIn_of_drains drains
  generalize after.run (words.map .text) = result at conducts
  generalize (after.available 1).drain.1 = contents at drains conducts sentences_eq
  generalize ending_eq : (after.available 1).drain.2 = ending at drains conducts
  cases conducts with
  | broken nonterminal breaksOff =>
      have incomplete := not_isComplete_of_nonterminal nonterminal
      refine ⟨contents.map Sentence.ofTexts, ?_, (hasPassed.drop_segments 1).symm, ?_, ?_, ?_, ?_,
        fun _ => ⟨_, rfl, ?_⟩⟩
      · rw [hasPassed.getElem?_segments, sentences_eq, segments_of_nonterminal nonterminal]
        rfl
      · exact fun complete => absurd complete incomplete
      · exact fun complete => absurd complete incomplete
      · exact fun complete => absurd complete incomplete
      · exact fun complete => absurd complete incomplete
      · rw [Wire.Decoder.drain_eq_iff.mpr ((hasPassed.leads 1).drains drains)]
        exact breaksOff
  | @answered segment later last contents_eq complete open_iff ready answered_succ leads =>
      have lasting (count : Nat) (more : passed.length < count) :
          (segments (sentencesIn (client.available count)))[passed.length]? =
            some (segment.map Sentence.ofTexts) := by
        have count_eq : count = passed.length + (1 + (count - passed.length - 1)) := by omega
        rw [count_eq, hasPassed.getElem?_segments,
          Wire.Decoder.sentencesIn_of_leads (available_leads answered_succ leads _),
          segments_append complete]
        rfl
      exact ⟨segment.map Sentence.ofTexts, lasting _ (Nat.lt_succ_self _),
        (hasPassed.drop_segments 1).symm, fun _ => lasting, fun _ => ⟨segment, rfl, leads⟩,
        fun _ => rfl, fun _ => open_iff, fun incomplete => absurd complete incomplete⟩

/-- The commands of a synchronous client partition its stream. As long as the client is open, each
command takes the segment of its number, and what becomes of it does not depend on the chunks. A
further piece is received only if no terminal sentence is complete in those that have been received
for the command, and at no reading if the decoder has a complete sentence. -/
theorem run_takesSegment
    (ready : client.IsReady)
    (canEncode : ∀ command ∈ commands, client.CanEncode command)
    (encodes : client.CanEncode words)
    (isOpen : (runAll commands client).link.isClosed = false) :
    (∃ segment, client.TakesSegment commands.length segment (runAll commands client)
      ((runAll commands client).run (words.map .text))) ∧
    (∀ other : Client, other.IsReady → client.SameBytes other →
      RunsAgree ((runAll commands client).run (words.map .text))
        ((runAll commands other).run (words.map .text))) ∧
    (∀ count, (runAll commands client).link.stream.receives + count <
        ((runAll commands client).run (words.map .text)).2.link.stream.receives →
      ∀ sentence ∈ sentencesIn ((runAll commands client).received count),
        sentence.isTerminal = false) ∧
    ∀ (reading : Client) (count : Nat), reading.link.reader = .absent →
      reading.link.stream.receives + count < reading.readSentence.2.link.stream.receives →
      (reading.fedWith count).next = .ok none := by
  obtain ⟨passed, length_eq, hasPassed⟩ := ready.hasPassed canEncode isOpen
  refine ⟨?_, fun other otherReady same => ?_, fun count further => ?_,
    fun reading count => next_fedWith_eq_none⟩
  · rw [← length_eq]
    exact hasPassed.takesSegment (encodes.of_encoding_eq hasPassed.encoding_eq)
  · obtain ⟨otherOpen, sameAfter⟩ := ready.sameBytes_runAll otherReady same canEncode isOpen
    have otherEncodes : ∀ command ∈ commands, other.CanEncode command :=
      fun command member => (canEncode command member).of_encoding_eq same.encoding_eq
    obtain ⟨otherPassed, -, otherHasPassed⟩ := otherReady.hasPassed otherEncodes otherOpen
    exact hasPassed.ready.runsAgree otherHasPassed.ready sameAfter
      (encodes.of_encoding_eq hasPassed.encoding_eq)
  · exact hasPassed.ready.isPlain.isTerminal_eq_false_of_run further

/-! ## A connection without failures -/

theorem answered_receiving
    {answers : List (List Bytes)}
    (nonempty : ∀ chunk ∈ answers.flatten, chunk ≠ [])
    (count : Nat) :
    (receiving answers).answered count = ((answers.map List.flatten).take count).flatten := by
  have arriving_eq : ((receiving answers).link.stream.script.take count).flatMap Answer.arriving =
      ((answers.take count).flatten).map .data := by
    rw [receiving, ← List.map_take, List.flatMap_map, List.map_flatten, List.flatMap_def]
    rfl
  have nonempty_take : ∀ chunk ∈ (answers.take count).flatten, chunk ≠ [] := by
    intro chunk member
    obtain ⟨chunks, chunksMember, chunkMember⟩ := List.mem_flatten.mp member
    exact nonempty chunk
      (List.mem_flatten.mpr ⟨chunks, List.mem_of_mem_take chunksMember, chunkMember⟩)
  rw [answered, Stream.answered, arriving_eq, Stream.readable_map_data nonempty_take,
    ← List.map_take, List.flatten_flatten]
  exact if_neg List.not_mem_nil

/-- Answers may be cut into chunks in any way. -/
theorem sameBytes_receiving
    {answers others : List (List Bytes)}
    (nonempty : ∀ chunk ∈ answers.flatten, chunk ≠ [])
    (othersNonempty : ∀ chunk ∈ others.flatten, chunk ≠ [])
    (same : answers.map List.flatten = others.map List.flatten) :
    (receiving answers).SameBytes (receiving others) where
  remaining_eq := rfl
  answered_eq count := by
    rw [answered_receiving nonempty, answered_receiving othersNonempty, same]

/-- The answer to the second command starts in the chunk that ends the first one. -/
def crossing : Client :=
  receiving [[[3, 33, 114, 101, 0, 5, 33, 100, 111, 110, 101, 0, 5, 33, 100]], [[111, 110, 101, 0]]]

theorem takesSegment_crossing :
    crossing.TakesSegment 1 [.ofTexts [literal "!done"]] (runAll [[literal "/a"]] crossing)
        ((runAll [[literal "/a"]] crossing).run [.text (literal "/b")]) ∧
      RunsAgree ((runAll [[literal "/a"]] crossing).run [.text (literal "/b")])
        ((runAll [[literal "/a"]] (receiving
          [[[3], [33, 114, 101, 0, 5], [33, 100, 111, 110, 101, 0, 5, 33, 100]],
            [[111], [110, 101, 0]]])).run [.text (literal "/b")]) := by
  have canEncode : ∀ command ∈ [[literal "/a"]], crossing.CanEncode command :=
    List.forall_mem_singleton.mpr ⟨_, rfl⟩
  have encodes : crossing.CanEncode [literal "/b"] := ⟨_, rfl⟩
  obtain ⟨⟨segment, takes⟩, agree, -⟩ :=
    run_takesSegment (isReady_receiving _) canEncode encodes rfl
  have same : some [Sentence.ofTexts [literal "!done"]] = some segment := takes.segment_eq
  cases same
  exact ⟨takes, agree _ (isReady_receiving _)
    (sameBytes_receiving (by decide) (by decide) (by decide))⟩

end Client
end RouterApi
