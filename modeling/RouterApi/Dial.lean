import RouterApi.Login

/-!
# Dialing

Dialing connects to a device, optionally over a secure transport, and logs in. The caller either
gets a client that is logged in, or an error; a connection whose login fails is closed.
-/

namespace RouterApi

/-- A step of dialing that concerns the transport. -/
inductive DialStep
  | defaultContext
  | connect (host : Text) (port timeout : Value)
  | secure (host : Text)
  | clearTimeout
  deriving DecidableEq

/-- The network as far as dialing can tell: whether connecting or securing the connection fails, and
the stream that connecting gives. -/
structure Network where
  stream : Stream
  connectFailure : Option Text := none
  secureFailure : Option Text := none

/-- What is dialed, and with which credentials. -/
structure DialOptions where
  address : Value
  username : Value
  password : Value
  timeout : Option Value := none
  cleartext : Option Value := none

/-- The result of dialing, with what has been done on the way. The stream is the connected one, in
its final state, unless it belongs to the client. -/
structure Dialed where
  outcome : Outcome Unit
  steps : List DialStep
  client : Option Client := none
  stream : Option Stream := none

namespace Dialed

/-- The connected stream in its final state. -/
def finalStream? (dialed : Dialed) : Option Stream :=
  (dialed.client.map fun client => client.link.stream).or dialed.stream

/-- What dialing has logged. -/
def log (dialed : Dialed) : List LogEntry :=
  dialed.client.elim [] fun client => client.journal.log

end Dialed

namespace Dial

/-- The host and the port of an address, which must be a text, given the port of addresses without
one. -/
def endpoint (address port : Value) : Except Error (Text × Value) :=
  match address.asText with
  | .error error => .error error
  | .ok address =>
      match Address.split address with
      | .error fault => .error (.address address fault)
      | .ok (host, named) => .ok (host, named.elim port .int)

/-- Log in over a new client, and close it if that fails. -/
def enter (options : DialOptions) (steps : List DialStep) (client : Client) : Dialed :=
  let client := client.modifyLink ({ · with address := some options.address.toText })
  let client := Client.logAbout .info .client (literal "connected") client
  match client.login options.username options.password with
  | (.raised error, client) =>
      { outcome := .raised error, steps, client := some client.close }
  | (outcome, client) => { outcome, steps, client := some client }

/-- Make a client over a connected stream, and log in. -/
def establish (options : DialOptions) (clientOptions : ClientOptions) (steps : List DialStep)
    (stream : Stream) (settings : Settings) : Dialed × Settings :=
  match Client.create clientOptions stream settings with
  | (.error error, settings) =>
      ({ outcome := .raised error, steps, stream := some stream }, settings)
  | (.ok client, settings) => (enter options steps client, settings)

/-- The timeout, host and port to connect with. -/
def prepare (options : DialOptions) (portSetting : Setting) (settings : Settings) :
    Except Error (Value × Text × Value) × Settings :=
  match settings.getUnless options.timeout .timeout with
  | (.error error, settings) => (.error error, settings)
  | (.ok timeout, settings) =>
      match settings.get portSetting with
      | (.error error, settings) => (.error error, settings)
      | (.ok port, settings) =>
          match endpoint options.address port with
          | .error error => (.error error, settings)
          | .ok (host, port) => (.ok (timeout, host, port), settings)

end Dial

/-- Connect over an unprotected transport and log in. -/
def dial (options : DialOptions) (network : Network) (settings : Settings) : Dialed × Settings :=
  match Dial.prepare options .port settings with
  | (.error error, settings) => ({ outcome := .raised error, steps := [] }, settings)
  | (.ok (timeout, host, port), settings) =>
      let connected := [DialStep.connect host port timeout]
      match network.connectFailure with
      | some reason => ({ outcome := .raised (.transport reason), steps := connected }, settings)
      | none =>
          Dial.establish options { cleartext := options.cleartext } (connected ++ [.clearTimeout])
            network.stream settings

/-- Connect over a secure transport and log in. The default context is only made when none is given,
after the timeout has been looked up. -/
def dialSecure (options : DialOptions) (givenContext : Bool) (network : Network)
    (settings : Settings) : Dialed × Settings :=
  match settings.getUnless options.timeout .timeout with
  | (.error error, settings) => ({ outcome := .raised error, steps := [] }, settings)
  | (.ok timeout, settings) =>
      let context := if givenContext then [] else [DialStep.defaultContext]
      match Dial.prepare { options with timeout := some timeout } .tlsPort settings with
      | (.error error, settings) => ({ outcome := .raised error, steps := context }, settings)
      | (.ok (timeout, host, port), settings) =>
          let connected := context ++ [.connect host port timeout]
          match network.connectFailure with
          | some reason =>
              ({ outcome := .raised (.transport reason), steps := connected }, settings)
          | none =>
              let secured := connected ++ [.secure host]
              match network.secureFailure with
              | some reason =>
                  ({ outcome := .raised (.transport reason), steps := secured,
                     stream := some network.stream.close }, settings)
              | none =>
                  Dial.establish options { secure := .bool true } (secured ++ [.clearTimeout])
                    network.stream settings

end RouterApi
