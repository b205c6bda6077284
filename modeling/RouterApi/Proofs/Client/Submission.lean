import RouterApi.Client
import RouterApi.Proofs.Session.Table

/-!
# Submission of commands

A command is submitted in two steps: its request is registered under a newly minted tag, and its
sentence is written. Each step can fail.
-/

namespace RouterApi
namespace Client

variable {words : List Word} {handler : Handler} {client : Client}

/-- The tag that is minted next. -/
def nextTag (client : Client) : Text :=
  Text.ofNat (client.dispatcher.minted + 1)

/-- The words of a command with the tag that is minted next. -/
def tagged
    (words : List Word)
    (client : Client) : List Word :=
  words ++ [.text (Word.ofTag (.text client.nextTag))]

/-- The client after a tag has been minted and a request made for it. -/
def enlist
    (words : List Word)
    (handler : Handler)
    (client : Client) : Client :=
  { client with
    dispatcher :=
      { client.dispatcher with
        minted := client.dispatcher.minted + 1
        requests := client.dispatcher.requests ++ [{ tag := client.nextTag, words, handler }] } }

/-- The client after a request for a newly minted tag has been registered. -/
def enroll
    (words : List Word)
    (handler : Handler)
    (client : Client) : Client :=
  { client with
    dispatcher :=
      { (client.enlist words handler).dispatcher with
        pending :=
          client.dispatcher.pending.set client.nextTag client.dispatcher.requests.length } }

@[simp] theorem length_enlist
    (words : List Word)
    (handler : Handler)
    (client : Client) :
    (client.enlist words handler).dispatcher.requests.length =
      client.dispatcher.requests.length + 1 := by
  simp [enlist]

@[simp] theorem length_enroll
    (words : List Word)
    (handler : Handler)
    (client : Client) :
    (client.enroll words handler).dispatcher.requests.length =
      client.dispatcher.requests.length + 1 :=
  length_enlist words handler client

/-- A new request is known under the number of requests made before. -/
theorem request?_enlist_self
    (words : List Word)
    (handler : Handler)
    (client : Client) :
    (client.enlist words handler).request? client.dispatcher.requests.length =
      some { tag := client.nextTag, words, handler } := by
  simp [enlist, Session.request?, Dispatcher.request?]

theorem request?_enlist_of_lt
    (words : List Word)
    (handler : Handler)
    {number : Nat}
    (known : number < client.dispatcher.requests.length) :
    (client.enlist words handler).request? number = client.request? number := by
  simp [enlist, Session.request?, Dispatcher.request?, List.getElem?_append_left known]

/-- A known request was made before, or is the new one. -/
theorem request?_enlist_eq_some
    {number : Nat}
    {request : Request}
    (found : (client.enlist words handler).request? number = some request) :
    client.request? number = some request ∨
      number = client.dispatcher.requests.length ∧
        request = { tag := client.nextTag, words, handler } :=
  Dispatcher.request?_adopt_eq_some found

/-- A request is registered if the connection has not failed and its tag is free. -/
theorem register_enlist
    (words : List Word)
    (handler : Handler)
    (working : client.dispatcher.failure = none)
    (free : client.lookup? client.nextTag = none) :
    (client.enlist words handler).dispatcher.register client.dispatcher.requests.length =
      .ok (client.enroll words handler).dispatcher :=
  (Dispatcher.register_eq_ok_iff (request?_enlist_self words handler client)).mpr
    ⟨working, free, rfl⟩

/-- A command is submitted by registering its request and writing its sentence. -/
theorem submit_eq
    (close : Client → Client)
    (words : List Word)
    (handler : Handler)
    (client : Client) :
    submit close words handler client =
      match (client.enlist words handler).dispatcher.register client.dispatcher.requests.length with
      | .error error => (.error error, client.enlist words handler)
      | .ok dispatcher =>
          match write close (client.tagged words) { client with dispatcher } with
          | (.ok (), after) => (.ok client.dispatcher.requests.length, after)
          | (.error error, after) =>
              (.error error, if error.kind.isApi then after.remove client.nextTag else after) :=
  rfl

/-- Once a request has been registered, its sentence is written. -/
theorem submit_of_free
    (close : Client → Client)
    (words : List Word)
    (handler : Handler)
    (working : client.dispatcher.failure = none)
    (free : client.lookup? client.nextTag = none) :
    submit close words handler client =
      match write close (client.tagged words) (client.enroll words handler) with
      | (.ok (), after) => (.ok client.dispatcher.requests.length, after)
      | (.error error, after) =>
          (.error error, if error.kind.isApi then after.remove client.nextTag else after) := by
  rw [submit_eq, register_enlist words handler working free]
  rfl

/-- A command is refused with an error of the API if the connection has failed or the tag is taken.
Its request is made all the same. -/
theorem submit_of_refused
    (close : Client → Client)
    (words : List Word)
    (handler : Handler)
    (refused : client.dispatcher.failure ≠ none ∨ client.lookup? client.nextTag ≠ none) :
    ∃ error, error.kind.isApi = true ∧
      submit close words handler client = (.error error, client.enlist words handler) := by
  have known := request?_enlist_self words handler client
  obtain ⟨error, isApi, registered⟩ := Dispatcher.register_of_refused known refused
  exact ⟨error, isApi, by rw [submit_eq, registered]⟩

/-- A command that is not refused has its request registered. -/
theorem free_of_not_refused
    (accepted : ¬ (client.dispatcher.failure ≠ none ∨ client.lookup? client.nextTag ≠ none)) :
    client.dispatcher.failure = none ∧ client.lookup? client.nextTag = none :=
  (not_or.mp accepted).imp Decidable.not_not.mp Decidable.not_not.mp

/-- The client after the words of a sentence have been shown in its log. -/
def showing
    (shown : List Text)
    (client : Client) : Client :=
  client.log .debug .client (literal ">>> " ++ Text.bracketed (shown.map Text.quoted))

/-- A sentence that can be encoded is written if the connection is open and the stream takes it. -/
theorem write_of_sent
    (close : Client → Client)
    {data : Bytes}
    {shown : List Text}
    {stream : Stream}
    (encoded : Wire.encodeSentence client.link.decoder.encoding words = .ok data)
    (isOpen : client.link.isClosed = false)
    (masked : Word.maskedAll words = .ok shown)
    (sent : client.link.stream.send data = (.ok (), stream)) :
    write close words client =
      (.ok (), (client.showing shown).modifyLink ({ · with stream })) := by
  simp [write, encoded, isOpen, masked, sent, showing]

/-- A sentence that the stream does not take closes the connection. -/
theorem write_of_failed
    (close : Client → Client)
    {data : Bytes}
    {shown : List Text}
    {reason : Text}
    {stream : Stream}
    (encoded : Wire.encodeSentence client.link.decoder.encoding words = .ok data)
    (isOpen : client.link.isClosed = false)
    (masked : Word.maskedAll words = .ok shown)
    (failed : client.link.stream.send data = (.error reason, stream)) :
    write close words client =
      (.error (.closed (.writeFailed reason)),
        close ((client.showing shown).modifyLink ({ · with stream }))) := by
  simp [write, encoded, isOpen, masked, failed, showing]

/-- What can become of a sentence that is written. -/
inductive Written
    (close : Client → Client)
    (words : List Word)
    (client : Client) : Except Error Unit × Client → Prop
  | unencoded {error}
      (encoded : Wire.encodeSentence client.link.decoder.encoding words = .error error) :
      Written close words client (.error error, client)
  | refused {data}
      (encoded : Wire.encodeSentence client.link.decoder.encoding words = .ok data)
      (isClosed : client.link.isClosed = true) :
      Written close words client (.error (.closed .alreadyClosed), client)
  | unshown {data error}
      (encoded : Wire.encodeSentence client.link.decoder.encoding words = .ok data)
      (isOpen : client.link.isClosed = false)
      (masked : Word.maskedAll words = .error error) :
      Written close words client (.error error, client)
  | sent {data shown stream}
      (encoded : Wire.encodeSentence client.link.decoder.encoding words = .ok data)
      (isOpen : client.link.isClosed = false)
      (masked : Word.maskedAll words = .ok shown)
      (sent : client.link.stream.send data = (.ok (), stream)) :
      Written close words client (.ok (), (client.showing shown).modifyLink ({ · with stream }))
  | failed {data shown reason stream}
      (encoded : Wire.encodeSentence client.link.decoder.encoding words = .ok data)
      (isOpen : client.link.isClosed = false)
      (masked : Word.maskedAll words = .ok shown)
      (failed : client.link.stream.send data = (.error reason, stream)) :
      Written close words client (.error (.closed (.writeFailed reason)),
        close ((client.showing shown).modifyLink ({ · with stream })))

theorem written_write
    (close : Client → Client)
    (words : List Word)
    (client : Client) :
    Written close words client (write close words client) := by
  unfold write
  cases encoded : Wire.encodeSentence client.link.decoder.encoding words with
  | error error => exact .unencoded encoded
  | ok data =>
      cases isClosed : client.link.isClosed with
      | true => exact .refused encoded isClosed
      | false =>
          cases masked : Word.maskedAll words with
          | error error => exact .unshown encoded isClosed masked
          | ok shown =>
              cases result : client.link.stream.send data with
              | mk outcome stream =>
                  simp only [Session.link_log, result]
                  cases outcome with
                  | ok => exact .sent encoded isClosed masked result
                  | error reason => exact .failed encoded isClosed masked result

/-! ## What submission keeps -/

/-- A property of clients is kept by writing if each step of it keeps the property: a sentence is
shown, and sent on an open connection. -/
structure Writes (Property : Client → Prop) : Prop where
  showing : ∀ {client} shown, Property client → Property (client.showing shown)
  send : ∀ {client : Client} data, Property client → client.link.isClosed = false →
    Property (client.modifyLink ({ · with stream := (client.link.stream.send data).2 }))

/-- A property of clients is kept by submission if each step of it keeps the property: a request is
made, or made and registered; its command is written; and its entry is removed again. -/
structure Transmits (Property : Client → Prop) : Prop extends Writes Property where
  enlist : ∀ {client} words handler, Property client → Property (client.enlist words handler)
  enroll : ∀ {client : Client} words handler, client.dispatcher.failure = none →
    client.lookup? client.nextTag = none → Property client →
    Property (client.enroll words handler)
  remove : ∀ {client : Client} tag, Property client → Property (client.remove tag)

variable {Property : Client → Prop}

theorem Writes.write
    (writes : Writes Property)
    {close : Client → Client}
    (keeps : ∀ {client}, Property client → Property (close client))
    (words : List Word)
    (property : Property client) :
    Property (write close words client).2 := by
  have written := written_write close words client
  generalize Client.write close words client = result at written ⊢
  cases written with
  | unencoded | refused | unshown => exact property
  | @sent data shown stream encoded isOpen masked sent =>
      have kept := writes.send data (writes.showing shown property) isOpen
      have stream_eq : (client.showing shown).link.stream.send data = (.ok (), stream) := sent
      rwa [stream_eq] at kept
  | @failed data shown reason stream encoded isOpen masked failed =>
      have kept := writes.send data (writes.showing shown property) isOpen
      have stream_eq : (client.showing shown).link.stream.send data = (.error reason, stream) :=
        failed
      rw [stream_eq] at kept
      exact keeps kept

/-- A command is submitted in steps: its request is made, or made and registered; its command is
written; and its entry is removed again. -/
theorem Writes.submit
    (writes : Writes Property)
    {close : Client → Client}
    (keeps : ∀ {client}, Property client → Property (close client))
    (words : List Word)
    (handler : Handler)
    (enlisted : Property (client.enlist words handler))
    (enrolled : client.dispatcher.failure = none → client.lookup? client.nextTag = none →
      Property (client.enroll words handler))
    (removed : client.lookup? client.nextTag = none → ∀ {after : Client}, Property after →
      Property (after.remove client.nextTag)) :
    Property (submit close words handler client).2 := by
  by_cases refused : client.dispatcher.failure ≠ none ∨ client.lookup? client.nextTag ≠ none
  · obtain ⟨error, -, submitted⟩ := submit_of_refused close words handler refused
    rw [submitted]
    exact enlisted
  · obtain ⟨working, free⟩ := free_of_not_refused refused
    have written := writes.write keeps (client.tagged words) (enrolled working free)
    rw [submit_of_free close words handler working free]
    cases result : Client.write close (client.tagged words) (client.enroll words handler) with
    | mk outcome after =>
        rw [result] at written
        cases outcome with
        | ok => exact written
        | error error =>
            simp only
            split
            · exact removed free written
            · exact written

theorem Transmits.submit
    (transmits : Transmits Property)
    {close : Client → Client}
    (keeps : ∀ {client}, Property client → Property (close client))
    (words : List Word)
    (handler : Handler)
    (property : Property client) :
    Property (submit close words handler client).2 :=
  transmits.toWrites.submit keeps words handler (transmits.enlist words handler property)
    (fun working free => transmits.enroll words handler working free property)
    fun _ _ => transmits.remove _

/-- Cancelling a command on the background reader submits another one. -/
theorem cancel_snd
    (tag : Text)
    (client : Client) :
    (readerHost.cancel tag client).2 =
      (submit shutDown (cancelCommand (.text tag)) (.callbacks none none) client).2 := by
  simp only [readerHost]
  cases submit shutDown (cancelCommand (.text tag)) (.callbacks none none) client with
  | mk outcome after =>
      cases outcome with
      | ok => rfl
      | error => rfl

theorem Transmits.cancel
    (transmits : Transmits Property)
    (keeps : ∀ {client}, Property client → Property client.shutDown)
    (tag : Text)
    (property : Property client) :
    Property (readerHost.cancel tag client).2 := by
  rw [cancel_snd]
  exact transmits.submit keeps (cancelCommand (.text tag)) (.callbacks none none) property

end Client
end RouterApi
