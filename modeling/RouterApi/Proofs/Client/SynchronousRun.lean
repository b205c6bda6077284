import RouterApi.Proofs.Aggregation
import RouterApi.Proofs.Client.Closing
import RouterApi.Proofs.Wire.Reading

/-!
# Running a command on a synchronous connection

A command that is run on a synchronous connection takes one of four courses: its words cannot be
shown, so that nothing is written; its write fails; the connection breaks down before the reply is
complete; or the reply is read up to its terminal sentence. The course tells whether the connection
is closed afterwards.
-/

namespace RouterApi

/-! ## Reading a reply -/

/-- The sentences that are read from a stream up to a terminal one, or up to an error. -/
inductive Hears : Wire.Decoder → Stream → List Sentence → Option Error → Prop
  | broken {decoder stream error rest after}
      (failed : Stream.Yields decoder stream (.error error, rest, after)) :
      Hears decoder stream [] (some error)
  | last {decoder stream words rest after}
      (read : Stream.Yields decoder stream (.ok words, rest, after))
      (terminal : (Sentence.ofTexts words).isTerminal = true) :
      Hears decoder stream [Sentence.ofTexts words] none
  | next {decoder stream words rest after sentences ending}
      (read : Stream.Yields decoder stream (.ok words, rest, after))
      (goesOn : (Sentence.ofTexts words).isTerminal = false)
      (later : Hears rest after sentences ending) :
      Hears decoder stream (Sentence.ofTexts words :: sentences) ending

namespace Hears

/-- Every sentence takes some bytes, so reading comes to an end. -/
theorem total
    (decoder : Wire.Decoder)
    (stream : Stream) :
    ∃ sentences ending, Hears decoder stream sentences ending := by
  generalize size_eq : decoder.buffer.length + stream.unreadSize = size
  induction size using Nat.strongRecOn generalizing decoder stream with
  | ind size inductionHypothesis =>
      have read := Stream.yields_readSentence decoder stream
      cases result : stream.readSentence decoder with
      | mk outcome state =>
          obtain ⟨rest, after⟩ := state
          rw [result] at read
          cases outcome with
          | error error => exact ⟨[], some error, .broken read⟩
          | ok words =>
              cases terminal : (Sentence.ofTexts words).isTerminal with
              | true => exact ⟨[Sentence.ofTexts words], none, .last read terminal⟩
              | false =>
                  have shorter := (read.progress rfl).2
                  obtain ⟨sentences, ending, later⟩ :=
                    inductionHypothesis _ (size_eq ▸ shorter) rest after rfl
                  exact ⟨Sentence.ofTexts words :: sentences, ending, .next read terminal later⟩

/-- What is read is determined by the decoder and the stream. -/
theorem unique
    {decoder : Wire.Decoder}
    {stream : Stream}
    {sentences others : List Sentence}
    {ending otherEnding : Option Error}
    (hears : Hears decoder stream sentences ending)
    (otherHears : Hears decoder stream others otherEnding) :
    sentences = others ∧ ending = otherEnding := by
  induction hears generalizing others otherEnding with
  | broken failed =>
      rw [Stream.yields_iff] at failed
      cases otherHears with
      | broken otherFailed =>
          cases failed.symm.trans (Stream.yields_iff.mp otherFailed)
          exact ⟨rfl, rfl⟩
      | last read => cases failed.symm.trans (Stream.yields_iff.mp read)
      | next read => cases failed.symm.trans (Stream.yields_iff.mp read)
  | last read terminal =>
      rw [Stream.yields_iff] at read
      cases otherHears with
      | broken failed => cases read.symm.trans (Stream.yields_iff.mp failed)
      | last otherRead =>
          cases read.symm.trans (Stream.yields_iff.mp otherRead)
          exact ⟨rfl, rfl⟩
      | next otherRead goesOn =>
          cases read.symm.trans (Stream.yields_iff.mp otherRead)
          cases terminal.symm.trans goesOn
  | next read goesOn later inductionHypothesis =>
      rw [Stream.yields_iff] at read
      cases otherHears with
      | broken failed => cases read.symm.trans (Stream.yields_iff.mp failed)
      | last otherRead terminal =>
          cases read.symm.trans (Stream.yields_iff.mp otherRead)
          cases terminal.symm.trans goesOn
      | next otherRead _ otherLater =>
          cases read.symm.trans (Stream.yields_iff.mp otherRead)
          obtain ⟨rfl, rfl⟩ := inductionHypothesis otherLater
          exact ⟨rfl, rfl⟩

/-- A reply that is complete ends with its only terminal sentence. -/
theorem exists_last
    {decoder : Wire.Decoder}
    {stream : Stream}
    {sentences : List Sentence}
    {ending : Option Error}
    (hears : Hears decoder stream sentences ending)
    (complete : ending = none) :
    ∃ earlier last, sentences = earlier ++ [last] ∧
      (∀ sentence ∈ earlier, sentence.isTerminal = false) ∧ last.isTerminal = true := by
  induction hears with
  | broken => cases complete
  | last read terminal => exact ⟨[], _, rfl, by simp, terminal⟩
  | next read goesOn later inductionHypothesis =>
      obtain ⟨earlier, last, rfl, nonterminal, terminal⟩ := inductionHypothesis complete
      exact ⟨_ :: earlier, last, rfl, List.forall_mem_cons.mpr ⟨goesOn, nonterminal⟩, terminal⟩

/-- In a known character set, only a breakdown of the connection ends what is read. -/
theorem isBreakdown
    {decoder : Wire.Decoder}
    {stream : Stream}
    {charset : Charset}
    {sentences : List Sentence}
    {ending : Option Error}
    {error : Error}
    (hears : Hears decoder stream sentences ending)
    (isKnown : Encoding.charset decoder.encoding = .ok charset)
    (broken : ending = some error) :
    Stream.IsBreakdown error := by
  induction hears with
  | broken failed =>
      cases broken
      exact failed.isBreakdown isKnown rfl
  | last => cases broken
  | next read _ _ inductionHypothesis =>
      obtain ⟨encoding_eq, -⟩ := read.progress rfl
      exact inductionHypothesis (encoding_eq ▸ isKnown) broken

end Hears

/-! ## The first failure of a reply -/

/-- A sentence that is not terminal reports a failure only if it is a trap. -/
theorem Failure.ofSentence?_eq_none_iff
    {sentence : Sentence}
    (goesOn : sentence.isTerminal = false) :
    ofSentence? sentence = none ↔ sentence.control ≠ .trap := by
  unfold Sentence.isTerminal at goesOn
  unfold ofSentence?
  cases control : sentence.control <;> simp [control] at goesOn ⊢

/-- The first failure of a complete reply is a fatal sentence exactly if the terminal sentence is
one and no trap came before it. -/
theorem Failure.exists_fatal_iff
    {earlier : List Sentence}
    {last : Sentence}
    (goesOn : ∀ sentence ∈ earlier, sentence.isTerminal = false)
    (terminal : last.isTerminal = true) :
    (∃ sentence, (earlier ++ [last]).findSome? ofSentence? = some (.fatal sentence)) ↔
      last.control = .fatal ∧ ∀ sentence ∈ earlier, sentence.control ≠ .trap := by
  induction earlier with
  | nil =>
      unfold Sentence.isTerminal at terminal
      cases control : last.control <;> simp [control, ofSentence?] at terminal ⊢
  | cons sentence later inductionHypothesis =>
      obtain ⟨goesOnFirst, goesOnLater⟩ := List.forall_mem_cons.mp goesOn
      have rest := inductionHypothesis goesOnLater
      by_cases trap : sentence.control = .trap
      · simp [ofSentence?, trap]
      · have silent := (ofSentence?_eq_none_iff goesOnFirst).mpr trap
        rw [List.cons_append, List.findSome?_cons, silent]
        simp only
        rw [rest]
        simp [trap]

namespace Client

variable {client : Client} {words : List Word}

/-! ## Reading on a client -/

/-- The client after a sentence has been read. -/
def hearing
    (sentence : Sentence)
    (decoder : Wire.Decoder)
    (stream : Stream)
    (client : Client) : Client :=
  (client.modifyLink ({ · with decoder, stream })).log .debug .client
    (literal "<<< " ++ sentence.summary)

theorem readSentence_of_ok
    {contents : List Text}
    {rest : Wire.Decoder}
    {after : Stream}
    (read : Stream.Yields client.link.decoder client.link.stream (.ok contents, rest, after)) :
    client.readSentence =
      (.ok (Sentence.ofTexts contents), client.hearing (Sentence.ofTexts contents) rest after) := by
  unfold readSentence
  rw [Stream.yields_iff.mp read]
  rfl

/-- The error that the failure to read a sentence surfaces as. A failure of the transport counts as
the end of the connection. -/
def surfaced : Error → Error
  | .transport reason => .closed (.readFailed reason)
  | error => error

/-- A breakdown while a sentence is read closes the connection. -/
theorem readSentence_of_error
    {error : Error}
    {rest : Wire.Decoder}
    {after : Stream}
    (failed : Stream.Yields client.link.decoder client.link.stream (.error error, rest, after)) :
    ∃ last, client.readSentence = (.error (surfaced error), last) ∧
      (Stream.IsBreakdown error → last.link.isClosed = true) := by
  have closed : (close (client.modifyLink
      ({ · with decoder := rest, stream := after }))).link.isClosed = true :=
    isClosed_close _
  unfold readSentence
  rw [Stream.yields_iff.mp failed]
  cases error with
  | transport reason => exact ⟨_, rfl, fun _ => closed⟩
  | framing fault => exact ⟨_, rfl, fun _ => closed⟩
  | closed cause => exact ⟨_, rfl, fun _ => closed⟩
  | _ => exact ⟨_, rfl, nofun⟩

/-- Reading a reply gives the sentences up to the terminal one and leaves the connection open, or
fails with what ended them, and closes the connection if it broke down. -/
theorem readReplyFrom_of_hears
    {decoder : Wire.Decoder}
    {stream : Stream}
    {sentences : List Sentence}
    {ending : Option Error}
    (hears : Hears decoder stream sentences ending)
    (decoder_eq : client.link.decoder = decoder)
    (stream_eq : client.link.stream = stream)
    {fuel : Nat}
    (enough : client.unreadSize < fuel)
    (reply : Reply) :
    (ending = none ∧ ∃ after, readReplyFrom fuel reply client =
        (.ok (sentences.foldl Reply.process reply), after) ∧
          after.link.isClosed = client.link.isClosed) ∨
      ∃ error after, ending = some error ∧
        readReplyFrom fuel reply client = (.error (surfaced error), after) ∧
          (Stream.IsBreakdown error → after.link.isClosed = true) := by
  induction hears generalizing client fuel reply with
  | broken failed =>
      subst decoder_eq stream_eq
      obtain ⟨last, read, closed⟩ := readSentence_of_error failed
      refine .inr ⟨_, last, rfl, ?_, closed⟩
      cases fuel with
      | zero => exact absurd enough (Nat.not_lt_zero _)
      | succ fuel => simp [readReplyFrom, read]
  | @last decoder stream contents rest after read terminal =>
      subst decoder_eq stream_eq
      refine .inl ⟨rfl, client.hearing (Sentence.ofTexts contents) rest after, ?_, rfl⟩
      cases fuel with
      | zero => exact absurd enough (Nat.not_lt_zero _)
      | succ fuel =>
          simp only [readReplyFrom, readSentence_of_ok read, terminal, if_true]
          rfl
  | @next decoder stream contents rest after sentences ending read goesOn later
      inductionHypothesis =>
      subst decoder_eq stream_eq
      obtain ⟨encoding_eq, shorter⟩ := read.progress rfl
      cases fuel with
      | zero => exact absurd enough (Nat.not_lt_zero _)
      | succ fuel =>
          simp only [readReplyFrom, readSentence_of_ok read, goesOn, Bool.false_eq_true, if_false]
          have decoder_eq : (client.hearing (Sentence.ofTexts contents) rest after).link.decoder =
            rest := rfl
          exact inductionHypothesis decoder_eq rfl
            (Nat.lt_of_lt_of_le shorter (Nat.le_of_lt_succ enough)) _

/-! ## The course of a command -/

/-- What becomes of a command on a synchronous connection. -/
inductive Course
  | unshown
  | unsent (reason : Text)
  | broken (sentences : List Sentence) (error : Error)
  | answered (sentences : List Sentence)

namespace Course

/-- Whether the transport failed: the command could not be written, or the connection broke down
while its reply was read. -/
def TransportFailed : Course → Prop
  | unsent _ => True
  | broken _ error => Stream.IsBreakdown error
  | unshown | answered _ => False

/-- Whether the reply was terminated by a fatal sentence. -/
def EndsFatally : Course → Prop
  | answered sentences => sentences.getLast?.map Sentence.control = some .fatal
  | unshown | unsent _ | broken _ _ => False

/-- Whether a trap was among the sentences of the reply. -/
def HasTrap : Course → Prop
  | answered sentences => ∃ sentence ∈ sentences, sentence.control = .trap
  | unshown | unsent _ | broken _ _ => False

end Course

/-- The course that a command takes on a client, given the bytes of its sentence. -/
inductive Takes
    (words : List Word)
    (data : Bytes)
    (client : Client) : Course → Prop
  | unshown {error}
      (masked : Word.maskedAll words = .error error) :
      Takes words data client .unshown
  | unsent {shown reason stream}
      (masked : Word.maskedAll words = .ok shown)
      (failed : client.link.stream.send data = (.error reason, stream)) :
      Takes words data client (.unsent reason)
  | broken {shown stream sentences error}
      (masked : Word.maskedAll words = .ok shown)
      (sent : client.link.stream.send data = (.ok (), stream))
      (hears : Hears client.link.decoder stream sentences (some error)) :
      Takes words data client (.broken sentences error)
  | answered {shown stream sentences}
      (masked : Word.maskedAll words = .ok shown)
      (sent : client.link.stream.send data = (.ok (), stream))
      (hears : Hears client.link.decoder stream sentences none) :
      Takes words data client (.answered sentences)

/-- Every command takes a course. -/
theorem Takes.total
    (words : List Word)
    (data : Bytes)
    (client : Client) :
    ∃ course, Takes words data client course := by
  cases masked : Word.maskedAll words with
  | error error => exact ⟨_, .unshown masked⟩
  | ok shown =>
      cases result : client.link.stream.send data with
      | mk outcome stream =>
          cases outcome with
          | error reason => exact ⟨_, .unsent masked result⟩
          | ok =>
              obtain ⟨sentences, ending, hears⟩ := Hears.total client.link.decoder stream
              cases ending with
              | none => exact ⟨_, .answered masked result hears⟩
              | some error => exact ⟨_, .broken masked result hears⟩

/-- A command takes only one course. -/
theorem Takes.unique
    {data : Bytes}
    {course other : Course}
    (takes : Takes words data client course)
    (otherTakes : Takes words data client other) :
    course = other := by
  cases takes with
  | unshown masked =>
      cases otherTakes with
      | unshown => rfl
      | unsent shown | broken shown | answered shown => cases masked.symm.trans shown
  | unsent masked failed =>
      cases otherTakes with
      | unshown unshown => cases masked.symm.trans unshown
      | unsent _ otherFailed =>
          cases failed.symm.trans otherFailed
          rfl
      | broken _ sent | answered _ sent => cases failed.symm.trans sent
  | broken masked sent hears =>
      cases otherTakes with
      | unshown unshown => cases masked.symm.trans unshown
      | unsent _ failed => cases sent.symm.trans failed
      | broken _ otherSent otherHears =>
          cases sent.symm.trans otherSent
          obtain ⟨rfl, ending_eq⟩ := hears.unique otherHears
          cases ending_eq
          rfl
      | answered _ otherSent otherHears =>
          cases sent.symm.trans otherSent
          cases (hears.unique otherHears).2
  | answered masked sent hears =>
      cases otherTakes with
      | unshown unshown => cases masked.symm.trans unshown
      | unsent _ failed => cases sent.symm.trans failed
      | broken _ otherSent otherHears =>
          cases sent.symm.trans otherSent
          cases (hears.unique otherHears).2
      | answered _ otherSent otherHears =>
          cases sent.symm.trans otherSent
          obtain ⟨rfl, -⟩ := hears.unique otherHears
          rfl

/-! ## When a run closes the connection -/

/-- A complete reply ends fatally without a trap exactly if its first failure is a fatal sentence.
-/
theorem Course.endsFatally_iff
    {decoder : Wire.Decoder}
    {stream : Stream}
    {sentences : List Sentence}
    (hears : Hears decoder stream sentences none) :
    (Course.answered sentences).EndsFatally ∧ ¬ (Course.answered sentences).HasTrap ↔
      ∃ sentence, (sentences.foldl Reply.process {}).failure = some (.fatal sentence) := by
  obtain ⟨earlier, last, rfl, goesOn, terminal⟩ := hears.exists_last rfl
  rw [Reply.failure_foldl_process]
  simp only [Option.none_or]
  rw [Failure.exists_fatal_iff goesOn terminal]
  simp only [EndsFatally, HasTrap, List.getLast?_append, List.getLast?_singleton]
  constructor
  · rintro ⟨fatal, noTrap⟩
    refine ⟨by simpa using fatal, ?_⟩
    intro sentence member trap
    exact noTrap ⟨sentence, List.mem_append_left _ member, trap⟩
  · rintro ⟨fatal, noTrap⟩
    refine ⟨by simpa using fatal, ?_⟩
    rintro ⟨sentence, member, trap⟩
    rcases List.mem_append.mp member with earlier | same
    · exact noTrap sentence earlier trap
    · rw [List.mem_singleton.mp same, fatal] at trap
      contradiction

/-- Once its command is written, a run closes the connection if it breaks down, or if the first
failure of the reply is a fatal sentence. -/
theorem isClosed_readReply
    (client : Client)
    {charset : Charset}
    (isOpen : client.link.isClosed = false)
    (isKnown : Encoding.charset client.link.decoder.encoding = .ok charset)
    {sentences : List Sentence}
    {ending : Option Error}
    (hears : Hears client.link.decoder client.link.stream sentences ending) :
    (readReply client).2.link.isClosed = true ↔
      (∃ error, ending = some error ∧ Stream.IsBreakdown error) ∨
        ending = none ∧
          ∃ sentence, (sentences.foldl Reply.process {}).failure = some (.fatal sentence) := by
  have read := readReplyFrom_of_hears hears rfl rfl (Nat.lt_succ_self _) {}
  unfold readReply
  rcases read with ⟨complete, after, read, same⟩ | ⟨error, after, broken, read, closes⟩
  · have unbroken : ¬ ∃ error, ending = some error ∧ Stream.IsBreakdown error := by
      rintro ⟨error, broken, -⟩
      cases complete.symm.trans broken
    have stillOpen := same.trans isOpen
    rw [read]
    cases failure : (sentences.foldl Reply.process {}).failure with
    | none => simp [failure, stillOpen, unbroken]
    | some reported =>
        cases reported with
        | fatal sentence => simp [failure, isClosed_close, complete]
        | trap sentence => simp [failure, stillOpen, unbroken]
        | unknown sentence => simp [failure, stillOpen, unbroken]
  · have breakdown := hears.isBreakdown isKnown broken
    have brokenDown : ∃ error, ending = some error ∧ Stream.IsBreakdown error :=
      ⟨error, broken, breakdown⟩
    rw [read]
    simp [closes breakdown, brokenDown]

/-- A run of a synchronous client whose command can be encoded closes the connection exactly if the
transport failed, or if the reply was terminated by a fatal sentence and no trap came before it. -/
theorem isClosed_runSync
    {charset : Charset}
    {data : Bytes}
    {course : Course}
    (isOpen : client.link.isClosed = false)
    (isKnown : Encoding.charset client.link.decoder.encoding = .ok charset)
    (encoded : Wire.encodeSentence client.link.decoder.encoding words = .ok data)
    (takes : Takes words data client course) :
    (client.runSync words).2.link.isClosed = true ↔
      course.TransportFailed ∨ course.EndsFatally ∧ ¬ course.HasTrap := by
  unfold runSync
  cases takes with
  | unshown masked =>
      simp [write, encoded, isOpen, masked, Course.TransportFailed, Course.EndsFatally]
  | unsent masked failed =>
      rw [write_of_failed close encoded isOpen masked failed]
      simp only [Course.TransportFailed, true_or, iff_true]
      exact isClosed_close _
  | @broken shown stream sentences error masked sent hears =>
      rw [write_of_sent close encoded isOpen masked sent]
      have closed := isClosed_readReply ((client.showing shown).modifyLink ({ · with stream }))
        isOpen isKnown hears
      refine closed.trans ?_
      simp [Course.TransportFailed, Course.EndsFatally]
  | @answered shown stream sentences masked sent hears =>
      rw [write_of_sent close encoded isOpen masked sent, Course.endsFatally_iff hears]
      have closed := isClosed_readReply ((client.showing shown).modifyLink ({ · with stream }))
        isOpen isKnown hears
      refine closed.trans ?_
      simp [Course.TransportFailed]

/-- What a command on an open synchronous connection does to the connection. It takes exactly one
course, and the connection is closed afterwards exactly if the transport failed, or if the reply was
terminated by a fatal sentence and no trap came before it. A fatal sentence therefore closes the
connection unless a trap came before it. -/
theorem isClosed_run_iff
    {charset : Charset}
    {data : Bytes}
    (isOpen : client.link.isClosed = false)
    (synchronous : client.link.isAsynchronous = false)
    (isKnown : Encoding.charset client.link.decoder.encoding = .ok charset)
    (encoded : Wire.encodeSentence client.link.decoder.encoding words = .ok data) :
    ∃ course, Takes words data client course ∧
      (∀ other, Takes words data client other → other = course) ∧
      ((client.run words).2.link.isClosed = true ↔
        course.TransportFailed ∨ course.EndsFatally ∧ ¬ course.HasTrap) ∧
      (((client.run words).2.link.isClosed = true ↔
          course.TransportFailed ∨ course.EndsFatally) ↔
        ¬ (course.EndsFatally ∧ course.HasTrap)) := by
  obtain ⟨course, takes⟩ := Takes.total words data client
  have closed := isClosed_runSync isOpen isKnown encoded takes
  have run_eq : (client.run words).2 = (client.runSync words).2 := by
    simp only [run, synchronous]
    cases result : Client.runSync words client with
    | mk outcome after => cases outcome <;> rfl
  have exclusive : course.TransportFailed → ¬ course.EndsFatally := by
    cases course <;> simp [Course.TransportFailed, Course.EndsFatally]
  refine ⟨course, takes, fun other otherTakes => otherTakes.unique takes, ?_, ?_⟩
  · rw [run_eq]
    exact closed
  · rw [run_eq, closed]
    constructor
    · rintro agree ⟨fatal, trap⟩
      rcases agree.mpr (.inr fatal) with failed | ⟨-, noTrap⟩
      · exact exclusive failed fatal
      · exact noTrap trap
    · intro clean
      constructor
      · exact Or.imp_right And.left
      · exact Or.imp_right fun fatal => ⟨fatal, fun trap => clean ⟨fatal, trap⟩⟩

/-- An open synchronous connection whose device answers the first command with a trap and a fatal
sentence. -/
def trapThenFatal : Client where
  link :=
    { stream :=
        { script :=
            [.chunks [.data [5, 33, 116, 114, 97, 112, 0, 6, 33, 102, 97, 116, 97, 108, 0]]] }
      secure := .bool false
      cleartext := .bool false
      queueSize := .int 0
      decoder := { encoding := .text (literal "utf-8") } }

theorem isClosed_run_trapThenFatal_iff :
    ∃ course, Takes [.text (literal "/x")] [2, 47, 120, 0] trapThenFatal course ∧
      (∀ other, Takes [.text (literal "/x")] [2, 47, 120, 0] trapThenFatal other →
        other = course) ∧
      ((trapThenFatal.run [.text (literal "/x")]).2.link.isClosed = true ↔
        course.TransportFailed ∨ course.EndsFatally ∧ ¬ course.HasTrap) ∧
      (((trapThenFatal.run [.text (literal "/x")]).2.link.isClosed = true ↔
          course.TransportFailed ∨ course.EndsFatally) ↔
        ¬ (course.EndsFatally ∧ course.HasTrap)) :=
  isClosed_run_iff rfl rfl rfl rfl

/-- A fatal sentence after a trap leaves the connection open. -/
theorem takes_trapThenFatal :
    Takes [.text (literal "/x")] [2, 47, 120, 0] trapThenFatal
      (.answered [Sentence.ofTexts [literal "!trap"], Sentence.ofTexts [literal "!fatal"]]) := by
  refine .answered rfl rfl (.next (Stream.yields_iff.mpr rfl) rfl
    (.last (Stream.yields_iff.mpr rfl) rfl))

theorem not_isClosed_run_iff_endsFatally :
    ¬ ∀ (client : Client) (words : List Word) (charset : Charset) (data : Bytes) (course : Course),
      client.link.isClosed = false → client.link.isAsynchronous = false →
      Encoding.charset client.link.decoder.encoding = .ok charset →
      Wire.encodeSentence client.link.decoder.encoding words = .ok data →
      Takes words data client course →
      ((client.run words).2.link.isClosed = true ↔
        course.TransportFailed ∨ course.EndsFatally) := by
  intro closes
  have closed := (closes trapThenFatal _ .utf8 _ _ rfl rfl rfl rfl takes_trapThenFatal).mpr
    (.inr rfl)
  have stillOpen : (trapThenFatal.run [.text (literal "/x")]).2.link.isClosed = false := rfl
  rw [stillOpen] at closed
  contradiction

end Client
end RouterApi
