import RouterApi.Proofs.Client.Standing

/-!
# Incidents

What can happen to an asynchronous connection, one thing at a time and in any order: the reader
dispatches a sentence, or delivers one again that was held up; a caller cancels a request, submits a
command, reads from a listener or closes the connection. An outstanding request has received the
sentences that were dispatched to its tag, and has been cancelled if one of the incidents cancelled
it.
-/

namespace RouterApi

namespace Session

variable {Λ : Type} {session after : Session Λ}

/-- A table stays sound if it stays the same, and the requests keep their tags. -/
theorem IsSound.update
    (sound : session.IsSound)
    (pending_eq : after.dispatcher.pending = session.dispatcher.pending)
    (tags : ∀ {number request}, session.request? number = some request →
      ∃ current, after.request? number = some current ∧ current.tag = request.tag) :
    after.IsSound where
  distinct := pending_eq ▸ sound.distinct
  owned {tag number} found := by
    rw [lookup?, pending_eq] at found
    obtain ⟨request, known, tag_eq⟩ := sound.owned found
    obtain ⟨current, currentKnown, same⟩ := tags known
    exact ⟨current, currentKnown, same.trans tag_eq⟩

theorem IsSound.modify
    (sound : session.IsSound)
    (number : Nat)
    {change : Request → Request}
    (same : ∀ request, (change request).tag = request.tag) :
    (session.modify number change).IsSound := by
  refine sound.update rfl ?_
  intro other request known
  rw [request?_modify, known]
  split
  · exact ⟨_, rfl, same request⟩
  · exact ⟨request, rfl, rfl⟩

end Session

namespace Client

variable {client : Client} {number : Nat} {standing : Standing}

/-! ## Lasting facts -/

theorem steady_isSound : Steady (fun _ => True) Session.IsSound where
  entry _ _ := trivial
  log _ _ _ sound := ⟨sound.distinct, sound.owned⟩
  receipt _ sound := ⟨sound.distinct, sound.owned⟩
  conclude {client number request} error _ _ _ sound := by
    have concluded : (client.modify number fun request =>
        { request with outcome := some error }).IsSound := sound.modify number fun _ => rfl
    refine concluded.update ?_ ?_
    · rw [Session.dispatcher_conclude]
    · intro other found known
      rw [Session.request?_conclude]
      exact ⟨found, known, rfl⟩
  queue _ _ _ _ sound := sound.modify _ fun _ => rfl
  fold _ _ sound := sound.modify _ fun _ => rfl
  call _ _ _ _ sound := ⟨sound.distinct, sound.owned⟩
  mark _ _ _ sound := sound.modify _ fun _ => rfl
  remove {client} tag sound :=
    { distinct := Assoc.nodup_keys_erase sound.distinct tag
      owned := fun found => sound.owned (sound.lookup?_of_lookup?_remove found) }
  unmatched _ _ sound := ⟨sound.distinct, sound.owned⟩
  cutOff error sound := Session.isSound_of_pending_eq_nil rfl
  enlist {client} words handler sound := by
    refine sound.update rfl ?_
    intro number request known
    have bound := (List.getElem?_eq_some_iff.mp known).1
    exact ⟨request, (request?_enlist_of_lt words handler bound).trans known, rfl⟩
  enroll {client} words handler working free sound := by
    have minted : ({ client with dispatcher := client.dispatcher.mint.2 } : Client).IsSound :=
      ⟨sound.distinct, sound.owned⟩
    exact minted.register { tag := client.nextTag, words, handler }
      (register_enlist words handler working free)
  send _ sound _ := ⟨sound.distinct, sound.owned⟩
  closing _ sound := ⟨sound.distinct, sound.owned⟩

/-- A request that is complete keeps its outcome. -/
theorem steady_outcome
    (number : Nat)
    (outcome : Option Error) :
    Steady (fun _ => True) fun client => client.outcome? number = some (some outcome) where
  entry _ _ := trivial
  log _ _ _ known := known
  receipt _ known := known
  conclude error _ found incomplete known := by
    rw [Session.outcome?_conclude found incomplete, known]
    simp
  queue _ _ _ _ known := (Session.outcome?_modify (by exact fun _ => rfl) _ _ _).trans known
  fold _ _ known := (Session.outcome?_modify (by exact fun _ => rfl) _ _ _).trans known
  call _ _ _ _ known := known
  mark _ _ _ known := (Session.outcome?_modify (by exact fun _ => rfl) _ _ _).trans known
  remove _ known := known
  unmatched _ _ known := known
  cutOff _ known := known
  enlist {client} words handler known := by
    obtain ⟨request, found, -⟩ := Option.map_eq_some_iff.mp known
    have bound := (List.getElem?_eq_some_iff.mp found).1
    rw [Session.outcome?, request?_enlist_of_lt words handler bound]
    exact known
  enroll {client} words handler _ _ known := by
    obtain ⟨request, found, -⟩ := Option.map_eq_some_iff.mp known
    have bound := (List.getElem?_eq_some_iff.mp found).1
    have enrolled : (client.enroll words handler).request? number = client.request? number :=
      request?_enlist_of_lt words handler bound
    rw [Session.outcome?, enrolled]
    exact known
  send _ known _ := known
  closing _ known := known

/-- A request that the table does not lead to is never registered again. -/
theorem steady_unlisted (number : Nat) :
    Steady (fun _ => True) fun client =>
      number < client.dispatcher.requests.length ∧ number ∉ client.listed where
  entry _ _ := trivial
  log _ _ _ unlisted := unlisted
  receipt _ unlisted := unlisted
  conclude error _ _ _ unlisted := by
    rw [Session.length_conclude, Session.listed, Session.dispatcher_conclude]
    exact unlisted
  queue _ _ _ _ unlisted := by
    rw [Session.length_modify]
    exact unlisted
  fold _ _ unlisted := by
    rw [Session.length_modify]
    exact unlisted
  call _ _ _ _ unlisted := unlisted
  mark _ _ _ unlisted := by
    rw [Session.length_modify]
    exact unlisted
  remove tag unlisted := by
    refine ⟨unlisted.1, fun member => unlisted.2 ?_⟩
    obtain ⟨entry, entryMember, same⟩ := List.mem_map.mp member
    exact List.mem_map.mpr ⟨entry, Assoc.mem_of_mem_erase entryMember, same⟩
  unmatched _ _ unlisted := unlisted
  cutOff _ unlisted := ⟨unlisted.1, List.not_mem_nil⟩
  enlist words handler unlisted := by
    rw [length_enlist]
    exact ⟨Nat.lt_succ_of_lt unlisted.1, unlisted.2⟩
  enroll words handler _ _ unlisted := by
    rw [length_enroll]
    refine ⟨Nat.lt_succ_of_lt unlisted.1, fun member => ?_⟩
    obtain ⟨entry, entryMember, same⟩ := List.mem_map.mp member
    rcases Assoc.mem_or_eq_of_mem_set entryMember with earlier | new
    · exact unlisted.2 (List.mem_map.mpr ⟨entry, earlier, same⟩)
    · exact Nat.lt_irrefl _ ((new.symm.trans same) ▸ unlisted.1)
  send _ unlisted _ := unlisted
  closing _ unlisted := unlisted

/-! ## Incidents -/

/-- Something that happens to a connection. -/
inductive Incident
  | sentence (sentence : Sentence)
  | delivery (number : Nat) (sentence : Sentence)
  | cancellation (number : Nat)
  | submission (words : List Word) (handler : Handler)
  | reading (number : Nat)
  | closing

namespace Incident

/-- The client after an incident. -/
def undergo
    (incident : Incident)
    (client : Client) : Client :=
  match incident with
  | .sentence arrived => (client.dispatch readerHost arrived).2
  | .delivery number held => (client.deliver readerHost number held).2
  | .cancellation number => (Session.cancelRequest readerHost.cancel number client).2
  | .submission words handler => (submit shutDown words handler client).2
  | .reading number => (Session.takeNext? number client).elim client Prod.snd
  | .closing => client.shutDown

/-- The sentence of an incident, if it has the given tag. -/
def sentenceOf?
    (tag : Text) : Incident → Option Sentence
  | .sentence arrived => if arrived.tag = some tag then some arrived else none
  | .delivery _ _ | .cancellation _ | .submission _ _ | .reading _ | .closing => none

theorem sentenceOf?_eq_some_iff
    {incident : Incident}
    {tag : Text}
    {found : Sentence} :
    incident.sentenceOf? tag = some found ↔
      incident = .sentence found ∧ found.tag = some tag := by
  cases incident with
  | sentence arrived =>
      simp only [sentenceOf?, Option.ite_none_right_eq_some, Option.some.injEq, sentence.injEq]
      constructor
      · rintro ⟨tagged, rfl⟩
        exact ⟨rfl, tagged⟩
      · rintro ⟨rfl, tagged⟩
        exact ⟨tagged, rfl⟩
  | delivery | cancellation | submission | reading | closing => simp [sentenceOf?]

/-- Whether an incident cancels an outstanding request of the given standing. A callback that
cancels its request does so with each data sentence that it is called for. -/
def cancels
    (number : Nat)
    (standing : Standing) : Incident → Bool
  | .sentence arrived =>
      standing.asksToCancel && arrived.control = .data && arrived.tag = some standing.tag
  | .delivery other _ => standing.asksToCancel && other == number
  | .cancellation other => other == number
  | .submission _ _ | .reading _ | .closing => false

end Incident

/-- The client after several incidents. -/
def undergoAll
    (incidents : List Incident)
    (client : Client) : Client :=
  incidents.foldl (fun client incident => incident.undergo client) client

/-- The sentences with the given tag that were dispatched in the course of incidents. -/
def sentencesOf
    (tag : Text)
    (incidents : List Incident) : List Sentence :=
  incidents.filterMap (Incident.sentenceOf? tag)

/-- The standing of an outstanding request after several incidents. -/
def standingAfter
    (number : Nat)
    (incidents : List Incident)
    (standing : Standing) : Standing :=
  { standing with
    reply := (sentencesOf standing.tag incidents).foldl Reply.process standing.reply
    cancelled := standing.cancelled || incidents.any (Incident.cancels number standing) }

theorem standingAfter_cons
    (number : Nat)
    (incident : Incident)
    (incidents : List Incident)
    (standing : Standing) :
    standingAfter number (incident :: incidents) standing =
      standingAfter number incidents (standingAfter number [incident] standing) := by
  have same : Incident.cancels number (standingAfter number [incident] standing) =
      Incident.cancels number standing := by
    funext other
    cases other <;> rfl
  have sentences_eq : sentencesOf standing.tag (incident :: incidents) =
      sentencesOf standing.tag [incident] ++ sentencesOf standing.tag incidents := by
    change sentencesOf standing.tag ([incident] ++ incidents) = _
    exact List.filterMap_append
  unfold standingAfter at same ⊢
  rw [same, sentences_eq, List.foldl_append]
  simp [Bool.or_assoc]

/-- An incident without a sentence for a request can only cancel it. -/
theorem standingAfter_of_silent
    {incident : Incident}
    (silent : incident.sentenceOf? standing.tag = none)
    (number : Nat) :
    standingAfter number [incident] standing =
      standing.mark (incident.cancels number standing) := by
  simp [standingAfter, sentencesOf, silent, Standing.mark]

/-- A lasting fact about sessions is kept by incidents if reading from a listener keeps it. -/
theorem Steady.undergo
    {Property : Client → Prop}
    (steady : Steady (fun _ => True) Property)
    (items : ∀ {client : Client} number queue items, Property client →
      Property (client.setItems number queue items))
    (incident : Incident)
    (property : Property client) :
    Property (incident.undergo client) := by
  cases incident with
  | sentence arrived => exact steady.stableUnder.upholds.dispatch arrived property
  | delivery number held => exact steady.stableUnder.upholds.deliver [] held trivial property
  | cancellation number =>
      exact steady.toSession.cancelRequest steady.stableUnder.cancel trivial property
  | submission words handler => exact steady.transmits.submit steady.shutDown words handler property
  | reading number =>
      simp only [Incident.undergo, Session.takeNext?]
      split
      · split
        · exact property
        · exact items _ _ _ property
        · exact items _ _ _ property
      · exact property
  | closing => exact steady.shutDown property

/-! ## The standing of an outstanding request -/

theorem standing?_setItems
    (known : client.standing? number = some standing)
    {other : Nat}
    {request : Request}
    {queue : Queue}
    (found : client.request? other = some request)
    (handler : request.handler = .listener queue)
    (items : List (Option Sentence)) :
    (client.setItems other queue items).standing? number = some standing := by
  refine (Session.standing?_modify ?_ number).trans known
  intro current currentFound
  cases found.symm.trans currentFound
  simp [Request.standing, handler, Handler.asksToCancel]

theorem standing?_reading
    (known : client.standing? number = some standing)
    (other : Nat) :
    ((Incident.reading other).undergo client).standing? number = some standing := by
  simp only [Incident.undergo, Session.takeNext?]
  split
  · rename_i found
    split
    · exact known
    · exact standing?_setItems known found rfl _
    · exact standing?_setItems known found rfl _
  · exact known

/-- An incident changes the standing of an outstanding request by its sentence if it has the tag of
the request, and if it cancels the request. -/
theorem standing?_undergo
    (sound : client.IsSound)
    (known : client.standing? number = some standing)
    (incomplete : client.outcome? number = some none)
    (found : client.lookup? standing.tag = some number)
    (incident : Incident) :
    (incident.undergo client).standing? number =
      some (standingAfter number [incident] standing) := by
  have retains := retains_standing number standing
  cases incident with
  | sentence arrived =>
      refine (standing?_dispatch sound known incomplete found arrived).trans (congrArg some ?_)
      by_cases own : arrived.tag = some standing.tag
      · simp [standingAfter, sentencesOf, Incident.sentenceOf?, Incident.cancels, own,
          Standing.receive, Standing.fold, Standing.mark]
      · simp [standingAfter, sentencesOf, Incident.sentenceOf?, Incident.cancels, own]
  | delivery other held =>
      rw [standingAfter_of_silent rfl]
      exact standing?_deliver known incomplete other held
  | cancellation other =>
      rw [standingAfter_of_silent rfl]
      exact standing?_cancelRequest known incomplete other
  | submission words handler =>
      rw [standingAfter_of_silent rfl, Incident.cancels, Standing.mark_false]
      exact retains.toTransmits.submit retains.shutDown words handler known
  | reading other =>
      rw [standingAfter_of_silent rfl, Incident.cancels, Standing.mark_false]
      exact standing?_reading known other
  | closing =>
      rw [standingAfter_of_silent rfl, Incident.cancels, Standing.mark_false]
      exact retains.shutDown known

/-- The tag of an outstanding request leads to it. -/
theorem lookup?_of_isOutstanding
    (sound : client.IsSound)
    (known : client.standing? number = some standing)
    (outstanding : client.IsOutstanding number) :
    client.lookup? standing.tag = some number := by
  obtain ⟨tag, found⟩ := outstanding.registered
  obtain ⟨request, requestFound, tag_eq⟩ := sound.owned found
  rw [Session.standing?, requestFound] at known
  cases known
  rw [← tag_eq] at found
  exact found

theorem isSound_undergo
    (sound : client.IsSound)
    (incident : Incident) :
    (incident.undergo client).IsSound :=
  steady_isSound.undergo (fun _ _ _ sound => sound.modify _ fun _ => rfl) incident sound

theorem lt_length_undergo
    (known : number < client.dispatcher.requests.length)
    (incident : Incident) :
    number < (incident.undergo client).dispatcher.requests.length :=
  (steady_known number).undergo
    (fun _ _ _ known => by rwa [Session.setItems, Session.length_modify]) incident known

theorem outcome?_undergo
    {outcome : Option Error}
    (complete : client.outcome? number = some (some outcome))
    (incident : Incident) :
    (incident.undergo client).outcome? number = some (some outcome) :=
  (steady_outcome number outcome).undergo
    (fun _ _ _ known => (Session.outcome?_modify (by exact fun _ => rfl) _ _ _).trans known)
    incident complete

theorem not_mem_listed_undergo
    (known : number < client.dispatcher.requests.length)
    (unlisted : number ∉ client.listed)
    (incident : Incident) :
    number ∉ (incident.undergo client).listed :=
  ((steady_unlisted number).undergo
    (fun _ _ _ unlisted => by
      rw [Session.setItems, Session.length_modify]
      exact unlisted)
    incident ⟨known, unlisted⟩).2

/-- A request that is outstanding after an incident was so before. -/
theorem isOutstanding_of_undergo
    (sound : client.IsSound)
    (known : number < client.dispatcher.requests.length)
    {incident : Incident}
    (outstanding : (incident.undergo client).IsOutstanding number) :
    client.IsOutstanding number := by
  constructor
  · have listed : number ∈ client.listed := by
      refine Decidable.byContradiction fun unlisted => ?_
      exact not_mem_listed_undergo known unlisted incident outstanding.mem_listed
    obtain ⟨⟨tag, other⟩, member, equal⟩ := List.mem_map.mp listed
    cases equal
    exact ⟨tag, Assoc.get?_eq_some_of_mem sound.distinct member⟩
  · have found : client.request? number = some client.dispatcher.requests[number] :=
      List.getElem?_eq_getElem known
    rw [Session.outcome?_of_request?_eq_some found]
    cases outcome : client.dispatcher.requests[number].outcome with
    | none => rfl
    | some final =>
        have complete : client.outcome? number = some (some final) := by
          rw [Session.outcome?_of_request?_eq_some found, outcome]
        have incomplete := outstanding.incomplete
        rw [outcome?_undergo complete incident] at incomplete
        cases incomplete

theorem isOutstanding_of_undergoAll
    (sound : client.IsSound)
    (known : number < client.dispatcher.requests.length)
    {incidents : List Incident}
    (outstanding : (undergoAll incidents client).IsOutstanding number) :
    client.IsOutstanding number := by
  induction incidents generalizing client with
  | nil => exact outstanding
  | cons incident later inductionHypothesis =>
      exact isOutstanding_of_undergo sound known
        (inductionHypothesis (isSound_undergo sound incident) (lt_length_undergo known incident)
          outstanding)

theorem isSound_undergoAll
    (sound : client.IsSound)
    (incidents : List Incident) :
    (undergoAll incidents client).IsSound := by
  induction incidents generalizing client with
  | nil => exact sound
  | cons incident later inductionHypothesis =>
      exact inductionHypothesis (isSound_undergo sound incident)

/-- An outstanding request has received the sentences of its tag, and has been cancelled if an
incident cancelled it. -/
theorem standing?_undergoAll
    (sound : client.IsSound)
    (known : client.standing? number = some standing)
    {incidents : List Incident}
    (outstanding : (undergoAll incidents client).IsOutstanding number) :
    (undergoAll incidents client).standing? number =
      some (standingAfter number incidents standing) := by
  induction incidents generalizing client standing with
  | nil =>
      have same : standingAfter number [] standing = standing := by
        simp [standingAfter, sentencesOf]
      rw [same]
      exact known
  | cons incident later inductionHypothesis =>
      obtain ⟨request, found, -⟩ := Session.exists_request_of_standing? known
      have bound := (List.getElem?_eq_some_iff.mp found).1
      have before := isOutstanding_of_undergoAll sound bound outstanding
      have stepped := standing?_undergo sound known before.incomplete
        (lookup?_of_isOutstanding sound known before) incident
      rw [standingAfter_cons]
      exact inductionHypothesis (isSound_undergo sound incident) stepped outstanding

/-! ## The terminal sentence -/

/-- How a request ends only depends on its standing. -/
theorem finalError_eq_of_standing_eq
    {request other : Request}
    (same : request.standing = other.standing) :
    request.finalError = other.finalError := by
  have reply_eq : request.reply = other.reply := congrArg Standing.reply same
  have cancelled_eq : request.cancelled = other.cancelled := congrArg Standing.cancelled same
  simp only [Request.finalError, Reply.error?, reply_eq, cancelled_eq]

/-- Completing an incomplete request sets its outcome, whatever its callback does. -/
theorem outcome?_finishLogged
    {request : Request}
    (found : client.request? number = some request)
    (incomplete : request.isDone = false)
    (label : Text)
    (error : Option Error) :
    (client.finishLogged shutDown label number error).outcome? number = some (some error) := by
  have finished : (client.finish shutDown number error).2.outcome? number = some (some error) := by
    have concluded : (client.conclude number request error).outcome? number =
        some (some error) := by
      rw [Session.outcome?_conclude found incomplete, if_pos rfl,
        Session.outcome?_of_request?_eq_some found]
      have none_eq : request.outcome = none := by simpa [Request.isDone] using incomplete
      rw [none_eq]
      rfl
    have finishes := Session.finishes_finish shutDown number error client
    generalize (client.finish shutDown number error).2 = after at finishes ⊢
    cases finishes with
    | idle settled => simp [settled request found] at incomplete
    | announced otherFound | declined otherFound =>
        cases found.symm.trans otherFound
        exact concluded
    | marked otherFound =>
        cases found.symm.trans otherFound
        exact (Session.outcome?_modify (by exact fun _ => rfl) _ _ _).trans concluded
    | closed otherFound =>
        cases found.symm.trans otherFound
        exact (steady_outcome number error).shutDown concluded
  rcases Session.finishLogged_eq shutDown label number error client with same | same
  · rwa [same]
  · rw [same]
    exact finished

/-- Once its terminal sentence has been dispatched, an outstanding request is complete with the
final error of what it has received. -/
theorem exists_ended
    {sentence : Sentence}
    (sound : client.IsSound)
    (known : client.standing? number = some standing)
    (outstanding : client.IsOutstanding number)
    (own : sentence.tag = some standing.tag)
    (terminal : sentence.isTerminal = true) :
    ∃ ended, (client.dispatch readerHost sentence).2.request? number = some ended ∧
      ended.standing = standing.fold sentence ∧ ended.outcome = some ended.finalError := by
  have found := lookup?_of_isOutstanding sound known outstanding
  have dispatched := standing?_dispatch sound known outstanding.incomplete found sentence
  have received : standing.receive sentence = standing.fold sentence := by
    simp [Standing.receive, Session.ne_data_of_isTerminal terminal]
  rw [if_pos own, received] at dispatched
  obtain ⟨ended, endedFound, same⟩ := Session.exists_request_of_standing? dispatched
  refine ⟨ended, endedFound, same, ?_⟩
  -- The request as it is when it is taken out of the table.
  obtain ⟨request, requestFound, rfl⟩ := Session.exists_request_of_standing? known
  have incomplete : request.isDone = false := by
    have outcome_eq := outstanding.incomplete
    rw [Session.outcome?_of_request?_eq_some requestFound] at outcome_eq
    rw [Request.isDone, Option.some.inj outcome_eq]
    rfl
  have retiredFound : (((client.modify number fun request =>
      { request with reply := request.reply.process sentence }).remove request.tag).request?
        number) = some { request with reply := request.reply.process sentence } := by
    rw [Session.request?_remove, Session.request?_modify, if_pos rfl, requestFound]
    rfl
  have completed : (client.dispatch readerHost sentence).2.outcome? number =
      some (some
        ({ request with reply := request.reply.process sentence } : Request).finalError) := by
    rw [Session.dispatch_of_lookup?_eq_some readerHost own found,
      Session.feed_of_terminal readerHost terminal]
    simp only [Session.retire, Request.standing] at retiredFound ⊢
    rw [retiredFound]
    exact outcome?_finishLogged retiredFound incomplete request.tag _
  rw [Session.outcome?_of_request?_eq_some endedFound] at completed
  rw [Option.some.inj completed]
  refine congrArg some (finalError_eq_of_standing_eq ?_)
  exact same.symm

end Client
end RouterApi
