import RouterApi.Dial
import RouterApi.Proofs.Login
import RouterApi.Proofs.Settings

/-!
# What dialing leaves behind

Dialing is tidy if it closes a connected stream just once before it raises an error, and only
returns after a successful login, on an open stream. A failed login is tidy. A client that cannot be
made over the connected stream, because of a setting that cannot be read, leaves the stream open.
-/

namespace RouterApi

/-! ## Making a client -/

/-- The settings provide everything that the options of a client leave out. -/
structure ClientOptions.AreProvided
    (options : ClientOptions)
    (settings : Settings) : Prop where
  cleartext : settings.Provides options.cleartext .cleartext
  queueSize : settings.Provides options.queueSize .queueSize
  encoding : settings.Provides options.encoding .encoding

/-- An encoding can always be read. -/
theorem ClientOptions.areProvided_iff
    {secure : Value}
    {cleartext : Option Value}
    {settings after : Settings}
    (same : ∀ given setting, after.Provides given setting ↔ settings.Provides given setting) :
    AreProvided { secure, cleartext } after ↔
      settings.Provides cleartext .cleartext ∧ settings.IsReadable .queueSize := by
  have queueSizeKept := same none .queueSize
  rw [Settings.provides_none, Settings.provides_none] at queueSizeKept
  rw [← same, ← queueSizeKept]
  constructor
  · intro provided
    exact ⟨provided.cleartext, Settings.provides_none.mp provided.queueSize⟩
  · rintro ⟨cleartext, queueSize⟩
    exact ⟨cleartext, .inr queueSize, .inr after.isReadable_encoding⟩

namespace Client

/-- A client is fresh over a stream if it is open, and has not used the stream. -/
structure IsFresh
    (stream : Stream)
    (client : Client) : Prop where
  plain : client.IsPlain stream.closes
  isOpen : client.link.isClosed = false
  stream_eq : client.link.stream = stream

/-- What making a client comes to: a fresh client if its options are provided, and an error if they
are not. -/
inductive Creates
    (options : ClientOptions)
    (stream : Stream)
    (settings : Settings) : Except Error Client → Prop
  | made {client}
      (provided : options.AreProvided settings)
      (fresh : client.IsFresh stream) :
      Creates options stream settings (.ok client)
  | refused {error}
      (unprovided : ¬ options.AreProvided settings) :
      Creates options stream settings (.error error)

theorem creates_create
    (options : ClientOptions)
    (stream : Stream)
    (settings : Settings) :
    Creates options stream settings (create options stream settings).1 := by
  have cleartextFinds := settings.finds_getUnless options.cleartext .cleartext
  unfold create
  generalize settings.getUnless options.cleartext .cleartext = lookedUp at cleartextFinds ⊢
  cases cleartextFinds with
  | missed unprovided => exact .refused fun provided => unprovided provided.cleartext
  | @found cleartext afterCleartext cleartextProvided same =>
      have queueSizeFinds := afterCleartext.finds_getUnless options.queueSize .queueSize
      simp only
      generalize afterCleartext.getUnless options.queueSize .queueSize = lookedUp
        at queueSizeFinds ⊢
      cases queueSizeFinds with
      | missed unprovided =>
          exact .refused fun provided => unprovided ((same _ _).mpr provided.queueSize)
      | @found queueSize afterQueueSize queueSizeProvided sameAgain =>
          have encodingFinds := afterQueueSize.finds_getUnless options.encoding .encoding
          have encodingKept := (sameAgain options.encoding .encoding).trans (same _ _)
          simp only
          generalize afterQueueSize.getUnless options.encoding .encoding = lookedUp
            at encodingFinds ⊢
          cases encodingFinds with
          | missed unprovided =>
              exact .refused fun provided => unprovided (encodingKept.mpr provided.encoding)
          | found encodingProvided =>
              refine .made ?_ ⟨⟨rfl, rfl, rfl⟩, rfl, rfl⟩
              exact
                { cleartext := cleartextProvided
                  queueSize := (same _ _).mp queueSizeProvided
                  encoding := encodingKept.mp encodingProvided }

end Client

/-! ## Tidiness -/

namespace Dialed

/-- Whether the stream of a network has been connected. -/
def HasConnected
    (network : Network)
    (dialed : Dialed) : Prop :=
  network.connectFailure = none ∧
    ∃ host port timeout, DialStep.connect host port timeout ∈ dialed.steps

/-- Whether the transport has been established: the stream has been connected, and secured if it is
to be. -/
def HasTransport (dialed : Dialed) : Prop :=
  DialStep.clearTimeout ∈ dialed.steps

/-- Dialing is tidy if it comes to an end, if it has closed a connected stream just once when it
raises an error, and if it only returns after a successful login, on an open stream. -/
structure IsTidy
    (options : DialOptions)
    (network : Network)
    (dialed : Dialed) : Prop where
  settled : dialed.outcome ≠ .waiting
  closed : ∀ {error}, dialed.outcome = .raised error → dialed.HasConnected network →
    ∃ stream, dialed.finalStream? = some stream ∧ stream.closes = network.stream.closes + 1
  entered : dialed.outcome = .returned () →
    ∃ client after, client.link.stream = network.stream ∧
      Login.Succeeds options.username options.password client after ∧
      dialed.client = some after ∧ after.link.isClosed = false ∧
      after.link.stream.closes = network.stream.closes

end Dialed

namespace Dial

variable
  {options : DialOptions}
  {network : Network}
  {steps : List DialStep}

/-- The client that logs in, which knows its address. -/
def connected
    (options : DialOptions)
    (client : Client) : Client :=
  Client.logAbout .info .client (literal "connected")
    (client.modifyLink ({ · with address := some options.address.toText }))

/-- Logging in over a fresh client is tidy: the client is closed if its login fails. -/
theorem isTidy_enter
    {client : Client}
    (fresh : client.IsFresh network.stream) :
    (enter options steps client).IsTidy options network := by
  have stream_eq : (connected options client).link.stream = network.stream := fresh.stream_eq
  have plain : (connected options client).IsPlain network.stream.closes :=
    ⟨fresh.plain.synchronous, fresh.plain.readerless, fresh.plain.closes_eq⟩
  have ends := Login.ends_login plain options.username options.password
  unfold enter
  unfold connected at ends stream_eq
  simp only
  generalize Client.login options.username options.password _ = result at ends ⊢
  cases ends with
  | @raised error after plainAfter =>
      have closes_eq := plainAfter.close.closes_eq
      rw [Client.isClosed_close] at closes_eq
      exact
        { settled := nofun
          closed := fun _ _ => ⟨after.close.link.stream, rfl, closes_eq⟩
          entered := nofun }
  | @returned after plainAfter isOpen succeeds =>
      have closes_eq := plainAfter.closes_eq
      rw [isOpen] at closes_eq
      exact
        { settled := nofun
          closed := nofun
          entered := fun _ => ⟨_, after, stream_eq, succeeds, rfl, isOpen, closes_eq⟩ }

theorem steps_establish
    (options : DialOptions)
    (clientOptions : ClientOptions)
    (steps : List DialStep)
    (stream : Stream)
    (settings : Settings) :
    (establish options clientOptions steps stream settings).1.steps = steps := by
  unfold establish
  split
  · rfl
  · simp only [enter]
    split <;> rfl

/-- Once the transport is established, dialing is tidy exactly if the client can be made. -/
theorem isTidy_establish_iff
    (clientOptions : ClientOptions)
    (settings : Settings)
    (hasConnected : network.connectFailure = none)
    {host : Text}
    {port timeout : Value}
    (connecting : DialStep.connect host port timeout ∈ steps)
    (cleared : DialStep.clearTimeout ∈ steps) :
    (establish options clientOptions steps network.stream settings).1.IsTidy options network ↔
      ((establish options clientOptions steps network.stream settings).1.HasTransport →
        clientOptions.AreProvided settings) := by
  unfold Dialed.HasTransport
  rw [steps_establish, imp_iff_right cleared]
  have creates := Client.creates_create clientOptions network.stream settings
  unfold establish
  generalize Client.create clientOptions network.stream settings = created at creates ⊢
  obtain ⟨result, after⟩ := created
  cases creates with
  | made provided fresh => exact iff_of_true (isTidy_enter fresh) provided
  | @refused error unprovided =>
      refine iff_of_false ?_ unprovided
      intro tidy
      obtain ⟨stream, final, closes_eq⟩ :=
        tidy.closed rfl ⟨hasConnected, host, port, timeout, connecting⟩
      cases final
      simp at closes_eq

/-- Nothing is to be tidied up if the stream has not been connected. -/
theorem isTidy_of_not_hasConnected
    {error : Error}
    {dialed : Dialed}
    (raised : dialed.outcome = .raised error)
    (unconnected : ¬ dialed.HasConnected network) :
    dialed.IsTidy options network where
  settled waiting := nomatch raised.symm.trans waiting
  closed _ hasConnected := absurd hasConnected unconnected
  entered returned := nomatch raised.symm.trans returned

/-- What is looked up before connecting does not change what is provided. -/
theorem provides_prepare
    (options : DialOptions)
    (portSetting : Setting)
    (settings : Settings)
    (given : Option Value)
    (setting : Setting) :
    (prepare options portSetting settings).2.Provides given setting ↔
      settings.Provides given setting := by
  have timeoutFinds := settings.finds_getUnless options.timeout .timeout
  unfold prepare
  generalize settings.getUnless options.timeout .timeout = lookedUp at timeoutFinds ⊢
  cases timeoutFinds with
  | missed => rfl
  | @found timeout between _ same =>
      have portFinds := between.finds_get portSetting
      simp only
      generalize between.get portSetting = lookedUp at portFinds ⊢
      cases portFinds with
      | missed => exact same given setting
      | @found port after _ sameAgain =>
          simp only
          cases endpoint options.address port with
          | error error => exact (sameAgain given setting).trans (same given setting)
          | ok => exact (sameAgain given setting).trans (same given setting)

variable {settings : Settings}

theorem isTidy_dialPlain_iff :
    (dial options network settings).1.IsTidy options network ↔
      ((dial options network settings).1.HasTransport →
        settings.Provides options.cleartext .cleartext ∧ settings.IsReadable .queueSize) := by
  have same := provides_prepare options .port settings
  unfold dial
  generalize prepare options .port settings = prepared at same ⊢
  obtain ⟨result, after⟩ := prepared
  cases result with
  | error error =>
      refine iff_of_true (isTidy_of_not_hasConnected rfl ?_) nofun
      rintro ⟨-, host, port, timeout, connecting⟩
      cases connecting
  | ok target =>
      obtain ⟨timeout, host, port⟩ := target
      simp only
      cases failure : network.connectFailure with
      | some reason =>
          refine iff_of_true (isTidy_of_not_hasConnected rfl ?_) (by simp [Dialed.HasTransport])
          intro hasConnected
          cases failure.symm.trans hasConnected.1
      | none =>
          refine (isTidy_establish_iff { cleartext := options.cleartext } after failure
            (List.mem_append_left _ List.mem_cons_self)
            (List.mem_append_right _ List.mem_cons_self)).trans ?_
          rw [ClientOptions.areProvided_iff same]

theorem isTidy_dialSecure_iff (givenContext : Bool) :
    (dialSecure options givenContext network settings).1.IsTidy options network ↔
      ((dialSecure options givenContext network settings).1.HasTransport →
        settings.IsReadable .cleartext ∧ settings.IsReadable .queueSize) := by
  have timeoutFinds := settings.finds_getUnless options.timeout .timeout
  unfold dialSecure
  generalize settings.getUnless options.timeout .timeout = lookedUp at timeoutFinds ⊢
  cases timeoutFinds with
  | missed =>
      refine iff_of_true (isTidy_of_not_hasConnected rfl ?_) nofun
      rintro ⟨-, host, port, timeout, connecting⟩
      cases connecting
  | @found timeout between _ same =>
      have sameAgain := provides_prepare { options with timeout := some timeout } .tlsPort between
      simp only
      generalize prepare { options with timeout := some timeout } .tlsPort between = prepared
        at sameAgain ⊢
      obtain ⟨result, after⟩ := prepared
      cases result with
      | error error =>
          refine iff_of_true (isTidy_of_not_hasConnected rfl ?_) ?_
          · rintro ⟨-, host, port, timeout, connecting⟩
            cases givenContext <;> simp at connecting
          · cases givenContext <;> simp [Dialed.HasTransport]
      | ok target =>
          obtain ⟨timeout, host, port⟩ := target
          simp only
          cases failure : network.connectFailure with
          | some reason =>
              refine iff_of_true (isTidy_of_not_hasConnected rfl ?_) ?_
              · intro hasConnected
                cases failure.symm.trans hasConnected.1
              · cases givenContext <;> simp [Dialed.HasTransport]
          | none =>
              cases network.secureFailure with
              | some reason =>
                  refine iff_of_true ⟨nofun, fun _ _ => ⟨_, rfl, rfl⟩, nofun⟩ ?_
                  cases givenContext <;> simp [Dialed.HasTransport]
              | none =>
                  have connecting : DialStep.connect host port timeout ∈
                      (if givenContext then [] else [DialStep.defaultContext]) ++
                        [.connect host port timeout] ++ [.secure host] ++ [.clearTimeout] := by
                    simp
                  refine (isTidy_establish_iff { secure := .bool true } after failure connecting
                    (by simp)).trans ?_
                  rw [ClientOptions.areProvided_iff fun given setting =>
                    (sameAgain given setting).trans (same given setting), Settings.provides_none]

end Dial

/-- Dialing over an unprotected transport is tidy exactly if, once the transport is established, it
is given whether the password may be sent unprotected or can read it from the settings, and can read
the size of queues from the settings. Over a secure transport, both are always read from the
settings. -/
theorem isTidy_dial_iff
    (options : DialOptions)
    (givenContext : Bool)
    (network : Network)
    (settings : Settings) :
    ((dial options network settings).1.IsTidy options network ↔
        ((dial options network settings).1.HasTransport →
          settings.Provides options.cleartext .cleartext ∧ settings.IsReadable .queueSize)) ∧
      ((dialSecure options givenContext network settings).1.IsTidy options network ↔
        ((dialSecure options givenContext network settings).1.HasTransport →
          settings.IsReadable .cleartext ∧ settings.IsReadable .queueSize)) :=
  ⟨Dial.isTidy_dialPlain_iff, Dial.isTidy_dialSecure_iff givenContext⟩

/-- Dialing leaves the stream open if the environment gives a size of queues that is not a number.
-/
theorem not_isTidy_dial :
    ¬ ∀ (options : DialOptions) (network : Network) (settings : Settings),
      (dial options network settings).1.IsTidy options network := by
  intro tidy
  obtain ⟨stream, final, closes_eq⟩ :=
    (tidy
      { address := .text (literal "a")
        username := .text (literal "u")
        password := .text (literal "p") }
      { stream := {} }
      { environment := [(Setting.queueSize.variableName, literal "x")] }).closed rfl
        ⟨rfl, literal "a", .int 8728, .null, List.mem_cons_self⟩
  cases final
  contradiction

end RouterApi
