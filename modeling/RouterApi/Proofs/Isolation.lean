import RouterApi.Proofs.Isolation.Cancellation
import RouterApi.Proofs.Isolation.Run

/-!
# Isolation of requests

The requests of a session do not influence each other. What a run of sentences makes of a request,
and in which order it calls its callbacks, is what the sentences of its tag alone would have made of
it, had it been the only request of the connection.
-/

namespace RouterApi
namespace Session

variable {Λ : Type}

/-! ## A request on its own -/

/-- The same connection with a request on its own. -/
def solo
    (request : Request)
    (session : Session Λ) : Session Λ where
  dispatcher :=
    { minted := session.dispatcher.minted
      requests := [request]
      pending := [(request.tag, 0)]
      failure := session.dispatcher.failure }
  link := session.link

variable
  {host : Host Λ}
  {Ready : Nat → Session Λ → Prop}
  {number : Nat}
  {request : Request}
  {session : Session Λ}

/-- A request on its own is registered. -/
theorem registers_solo : (session.solo request).Registers 0 request :=
  ⟨by simp [solo, lookup?, Assoc.get?], rfl⟩

theorem eq_of_request?_solo
    {found : Request}
    (found_eq : (session.solo request).request? number = some found) :
    found = request := by
  obtain ⟨bound, rfl⟩ := List.getElem?_eq_some_iff.mp found_eq
  exact List.getElem_singleton bound

theorem tag_eq_of_lookup?_solo
    {tag : Text}
    (entry : (session.solo request).lookup? tag = some number) :
    tag = request.tag := by
  by_cases same : tag = request.tag
  · exact same
  · have absent : (session.solo request).lookup? tag = none := by
      simp [solo, lookup?, Assoc.get?, Ne.symm same]
    rw [absent] at entry
    contradiction

theorem isConfined_solo (confined : request.handler.isConfined = true) :
    (session.solo request).IsConfined where
  distinct := by simp [solo, Assoc.keys]
  owned entry := by
    obtain rfl := tag_eq_of_lookup?_solo entry
    have number_eq := registers_solo.lookup_eq.symm.trans entry
    cases number_eq
    exact ⟨request, rfl, rfl⟩
  handler _ found := by rwa [eq_of_request?_solo found]

theorem isPartOf_solo (known : session.request? number = some request) :
    (session.solo request).IsPartOf session where
  link_eq := rfl
  minted_eq := rfl
  failure_eq := rfl
  known found := ⟨number, request, known, by rw [eq_of_request?_solo found]⟩

/-- A request on its own, and the sentences of its tag, are undisturbed as well. -/
theorem Undisturbed.solo
    (discreet : host.IsDiscreet Ready)
    {sentences : List Sentence}
    (undisturbed : session.Undisturbed Ready sentences)
    (registered : session.Registers number request) :
    (session.solo request).Undisturbed Ready
      (sentences.filter (·.tag == some request.tag)) where
  confined := isConfined_solo
    (undisturbed.confined.handler registered.lookup_eq registered.request_eq)
  ready := discreet.part (isPartOf_solo registered.request_eq)
    (discreet.atLeast (List.length_filter_le _ _) undisturbed.ready)
  peaceful sentence member := undisturbed.peaceful sentence (List.mem_filter.mp member).1

/-! ## Isolation -/

/-- A run isolates the requests of a session if it deals with every sentence and counts the strays
among them, if each sentence changes at most the request that it is addressed to, and if each
request ends up as it does on its own with the sentences of its tag, and as it does in any other
undisturbed run with the same sentences of its tag. -/
structure Isolates
    (host : Host Λ)
    (Ready : Nat → Session Λ → Prop)
    (sentences : List Sentence)
    (session : Session Λ) : Prop where
  handled : ∀ dispatched ∈ (session.dispatchAll host sentences).1, dispatched = .handled
  unmatched_eq : (session.dispatchAll host sentences).2.dispatcher.unmatched =
    session.dispatcher.unmatched + session.strayCount host sentences
  untouched : ∀ {earlier sentence later}, sentences = earlier ++ sentence :: later →
    ∀ {number request}, (session.dispatchAll host earlier).2.request? number = some request →
      ¬ (session.dispatchAll host earlier).2.addresses number sentence →
      ((session.dispatchAll host earlier).2.dispatch host sentence).2.request? number =
        some request
  agree_solo : ∀ {number request}, session.Registers number request →
    Agree request.tag number 0 session (session.dispatchAll host sentences).2
      (session.solo request) ((session.solo request).dispatchAll host
        (sentences.filter (·.tag == some request.tag))).2
  agree : ∀ {number request}, session.Registers number request →
    ∀ {other otherNumber others}, Undisturbed Ready others other →
      other.Registers otherNumber request →
      sentences.filter (·.tag == some request.tag) = others.filter (·.tag == some request.tag) →
      Agree request.tag number otherNumber session (session.dispatchAll host sentences).2
        other (other.dispatchAll host others).2

/-- The requests of a session are isolated in every undisturbed run. -/
theorem isolates_of_undisturbed
    (discreet : host.IsDiscreet Ready)
    {sentences : List Sentence}
    (undisturbed : session.Undisturbed Ready sentences) :
    session.Isolates host Ready sentences := by
  obtain ⟨handled, advances⟩ := advances_dispatchAll discreet undisturbed
  refine ⟨handled, advances.unmatched_eq, ?_, ?_, ?_⟩
  · rintro earlier sentence later rfl number request known elsewhere
    obtain ⟨confined, ready, peaceful⟩ := undisturbed
    obtain ⟨peacefulEarlier, peacefulRest⟩ := List.forall_mem_append.mp peaceful
    have start : session.Undisturbed Ready earlier :=
      ⟨confined, discreet.atLeast (by simp) ready, peacefulEarlier⟩
    obtain ⟨-, reached⟩ := advances_dispatchAll discreet start
    have readyFirst : Ready 1 (session.dispatchAll host earlier).2 :=
      reached.ready (discreet.atLeast (by simp; omega) ready)
    obtain ⟨after, dispatched, -, untouched⟩ := advances_dispatch discreet reached.isConfined
      readyFirst (peacefulRest sentence List.mem_cons_self)
    rw [dispatched]
    exact untouched elsewhere known
  · intro number request registered
    exact agree_of_filter_eq discreet undisturbed (undisturbed.solo discreet registered)
      registered registers_solo (by simp [List.filter_filter])
  · intro number request registered other otherNumber others otherUndisturbed otherRegistered same
    exact agree_of_filter_eq discreet undisturbed otherUndisturbed registered otherRegistered same

/-- An open connection with two outstanding commands. The first one is cancelled by its callback,
the callback of the second one fails. -/
def twoCommands : Client where
  dispatcher :=
    { minted := 2
      requests :=
        [{ tag := literal "1", words := [.text (literal "/x")],
           handler := .callbacks (some .cancel) (some .observe) },
         { tag := literal "2", words := [.text (literal "/y")],
           handler := .callbacks (some (.raise .untagged)) none }]
      pending := [(literal "1", 0), (literal "2", 1)] }
  link :=
    { stream := {}
      secure := .bool false
      cleartext := .bool false
      queueSize := .int 0
      decoder := { encoding := .text (literal "utf-8") }
      isAsynchronous := true
      reader := .reading }

/-- The answers to both commands, the later one first, and a sentence of neither. -/
def interleaved : List Sentence :=
  [Sentence.ofTexts [literal "!re", literal ".tag=2"],
   Sentence.ofTexts [literal "!re", literal ".tag=1"],
   Sentence.ofTexts [literal "!done", literal ".tag=2"]]

theorem encodeSentence_cancelSentence
    {number own : Nat}
    (bound : number < 6)
    (ownBound : own < 6) :
    ∃ data, Wire.encodeSentence (.text (literal "utf-8"))
      (Client.cancelSentence (Text.ofNat number) (Text.ofNat own)) = .ok data := by
  have written : ∀ number < 6, ∀ own < 6,
      (Wire.encodeSentence (.text (literal "utf-8"))
        (Client.cancelSentence (Text.ofNat number) (Text.ofNat own))).isOk = true := by
    decide
  have isOk := written number bound own ownBound
  cases encoded : Wire.encodeSentence (.text (literal "utf-8"))
      (Client.cancelSentence (Text.ofNat number) (Text.ofNat own)) with
  | ok data => exact ⟨data, rfl⟩
  | error failure =>
      rw [encoded] at isOk
      contradiction

theorem canCancel_twoCommands : Client.CanCancel 3 twoCommands where
  isOpen := rfl
  working := rfl
  sending := by simp [twoCommands]
  fresh {number request} found later above same := by
    have member := List.mem_of_getElem? found
    simp only [twoCommands, List.mem_cons, List.not_mem_nil, or_false] at member
    have above : 2 < later := above
    rcases member with rfl | rfl
    · have number_eq : 1 = later := Text.ofNat_injective same
      omega
    · have number_eq : 2 = later := Text.ofNat_injective same
      omega
  writable {number request own} found above below := by
    have member := List.mem_of_getElem? found
    simp only [twoCommands, List.mem_cons, List.not_mem_nil, or_false] at member
    have below : own ≤ 5 := below
    rcases member with rfl | rfl
    · exact encodeSentence_cancelSentence (show 1 < 6 by omega) (by omega)
    · exact encodeSentence_cancelSentence (show 2 < 6 by omega) (by omega)
  writableLater {later own} above below ownAbove ownBelow := by
    have below : later ≤ 5 := below
    have ownBelow : own ≤ 5 := ownBelow
    exact encodeSentence_cancelSentence (by omega) (by omega)

theorem undisturbed_twoCommands :
    twoCommands.Undisturbed Client.CanCancel interleaved where
  confined := isConfined_of_forall_mem (by decide) (by
    intro tag number member
    simp only [twoCommands, List.mem_cons, List.not_mem_nil, or_false, Prod.mk.injEq] at member
    rcases member with ⟨rfl, rfl⟩ | ⟨rfl, rfl⟩
    · exact ⟨_, rfl, rfl, rfl⟩
    · exact ⟨_, rfl, rfl, rfl⟩)
  ready := canCancel_twoCommands
  peaceful := by decide

theorem isolates_twoCommands :
    twoCommands.Isolates Client.readerHost Client.CanCancel interleaved :=
  isolates_of_undisturbed Client.isDiscreet_readerHost undisturbed_twoCommands

end Session
end RouterApi
