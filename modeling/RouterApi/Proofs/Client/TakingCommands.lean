import RouterApi.Proofs.Client.Orderly
import RouterApi.Proofs.Isolation.Cancellation
import RouterApi.Proofs.Session.Observing

/-!
# Clients that take commands

As long as a client is open and its stream takes what is written to it, every request is tagged with
its own number and can be registered. New requests, other entries in the table, and sentences that
requests have taken leave it so.
-/

namespace RouterApi
namespace Client

/-- A client that takes commands: it is open, writing does not fail, its requests are tagged in the
order in which they were made, and their callbacks only observe. -/
structure TakesCommands (client : Client) : Prop where
  isOpen : client.link.isClosed = false
  working : client.dispatcher.failure = none
  sending : ∀ reason, Answer.failure reason ∉ client.link.stream.script
  minted_eq : client.dispatcher.minted = client.dispatcher.requests.length
  distinct : (Assoc.keys client.dispatcher.pending).Nodup
  tagged : ∀ {number request}, client.request? number = some request →
    request.tag = tagOf number
  observing : ∀ {number request}, client.request? number = some request →
    request.handler.isObserving = true

variable {client : Client} {words : List Word} {handler : Handler}

/-- A request that was made has the tag of its number. -/
theorem TakesCommands.exists_request
    (takes : client.TakesCommands)
    {number : Nat}
    (made : number < client.dispatcher.requests.length) :
    ∃ request, client.request? number = some request ∧ request.tag = tagOf number :=
  ⟨_, List.getElem?_eq_getElem made, takes.tagged (List.getElem?_eq_getElem made)⟩

/-- A client without requests takes commands. -/
theorem takesCommands_of_fresh
    (fresh : client.dispatcher = {})
    (isOpen : client.link.isClosed = false)
    (sending : ∀ reason, Answer.failure reason ∉ client.link.stream.script) :
    client.TakesCommands where
  isOpen := isOpen
  working := by rw [fresh]
  sending := sending
  minted_eq := by
    rw [fresh]
    rfl
  distinct := by
    rw [fresh]
    exact List.nodup_nil
  tagged known := by simp [Session.request?, Dispatcher.request?, fresh] at known
  observing known := by simp [Session.request?, Dispatcher.request?, fresh] at known

/-- A client with a request for the next tag. -/
theorem TakesCommands.enlist
    (takes : client.TakesCommands)
    (observing : handler.isObserving = true) :
    (client.enlist words handler).TakesCommands where
  isOpen := takes.isOpen
  working := takes.working
  sending := takes.sending
  minted_eq := by
    rw [length_enlist, ← takes.minted_eq]
    rfl
  distinct := takes.distinct
  tagged {number request} known := by
    rcases request?_enlist_eq_some known with earlier | ⟨rfl, rfl⟩
    · exact takes.tagged earlier
    · rw [nextTag, takes.minted_eq]
      rfl
  observing known := by
    rcases request?_enlist_eq_some known with earlier | ⟨-, rfl⟩
    · exact takes.observing earlier
    · exact observing

/-- A client with another table or another stream. -/
theorem TakesCommands.update
    {after : Client}
    (takes : client.TakesCommands)
    (isClosed_eq : after.link.isClosed = client.link.isClosed)
    (sending : ∀ reason, Answer.failure reason ∉ after.link.stream.script)
    (failure_eq : after.dispatcher.failure = client.dispatcher.failure)
    (minted_eq : after.dispatcher.minted = client.dispatcher.minted)
    (requests_eq : after.dispatcher.requests = client.dispatcher.requests)
    (distinct : (Assoc.keys after.dispatcher.pending).Nodup) :
    after.TakesCommands where
  isOpen := isClosed_eq.trans takes.isOpen
  working := failure_eq.trans takes.working
  sending := sending
  minted_eq := by rw [minted_eq, requests_eq, takes.minted_eq]
  distinct := distinct
  tagged known := takes.tagged ((congrArg (·[_]?) requests_eq).symm.trans known)
  observing known := takes.observing ((congrArg (·[_]?) requests_eq).symm.trans known)

/-- A client one of whose requests has taken a sentence. -/
theorem TakesCommands.absorb
    {after : Client}
    (takes : client.TakesCommands)
    {tag : Text}
    {number : Nat}
    {sentence : Sentence}
    {error : Option Error}
    (link_eq : after.link = client.link)
    (dispatcher_eq : after.dispatcher = client.dispatcher.absorb tag number sentence error) :
    after.TakesCommands where
  isOpen := by
    rw [link_eq]
    exact takes.isOpen
  working := by
    rw [dispatcher_eq]
    exact takes.working
  sending := by
    rw [link_eq]
    exact takes.sending
  minted_eq := by
    rw [dispatcher_eq, Dispatcher.length_absorb]
    exact takes.minted_eq
  distinct := by
    rw [dispatcher_eq]
    exact Dispatcher.nodup_keys_absorb takes.distinct ..
  tagged {other request} known := by
    rw [Session.request?, dispatcher_eq] at known
    obtain ⟨earlier, found, tag_eq, -⟩ := Dispatcher.request?_absorb_eq_some known
    rw [tag_eq]
    exact takes.tagged found
  observing {other request} known := by
    rw [Session.request?, dispatcher_eq] at known
    obtain ⟨earlier, found, -, handler_eq, -⟩ := Dispatcher.request?_absorb_eq_some known
    rw [handler_eq]
    exact takes.observing found

end Client
end RouterApi
