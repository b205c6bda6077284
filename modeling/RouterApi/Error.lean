import RouterApi.Reply
import RouterApi.Hex
import RouterApi.Numeral
import RouterApi.Address
import RouterApi.Duration.Reading
import RouterApi.Wire.LengthPrefix

/-!
# Errors

Everything that can go wrong, by cause. Each error has a kind, by which callers tell errors apart, a
message, and possibly the error that it was raised from. A failure reported by the device carries
the reply that it was recorded in, so that data received around it can be inspected.
-/

namespace RouterApi

/-- The kinds by which callers tell errors apart. -/
inductive ErrorKind
  | general
  | framing
  | connectionClosed
  | authentication
  | tag
  | unknownReply
  | device
  | fatal
  | notFound
  | missingId
  | versionTooOld
  | value
  | key
  | lookup
  | overflow
  | unencodable
  | type
  | missingAttribute
  | runtime
  | timeout
  | transport
  | hexadecimal
  | index
  deriving DecidableEq, Repr

namespace ErrorKind

/-- Whether an error is one that the API itself defines, rather than one of values or of the
transport. -/
def isApi : ErrorKind → Bool
  | general | framing | connectionClosed | authentication | tag | unknownReply | device | fatal
  | notFound | missingId | versionTooOld => true
  | value | key | lookup | overflow | unencodable | type | missingAttribute | runtime | timeout
  | transport | hexadecimal | index => false

/-- Whether an error is one about the content of a value. -/
def isAboutValue : ErrorKind → Bool
  | value | unencodable => true
  | _ => false

end ErrorKind

/-- How a byte stream fails to be a sequence of sentences. -/
inductive FramingFault
  | reservedByte (byte : UInt8)
  | endedInside
  | truncated
  | trailing
  deriving DecidableEq, Repr

/-- How a connection ended, or was refused. -/
inductive ClosedCause
  | byDevice
  | byCaller
  | alreadyClosed
  | refused (reason : Text)
  | writeFailed (reason : Text)
  | readFailed (reason : Text)
  | lost (kind : ErrorKind) (reason : Text)
  | stated (message : Text)
  deriving DecidableEq, Repr

/-- An error, by its cause. -/
inductive Error
  | framing (fault : FramingFault)
  | closed (cause : ClosedCause)
  | transport (reason : Text)
  | reported (failure : Failure) (reply : Option Reply)
  | rejected (failure : Failure) (reply : Option Reply)
  | invalidChallenge (fault : Hex.Fault)
  | incompleteReply
  | tagInUse (tag : Text)
  | untagged
  | unregistered (tag : Text)
  | timedOut (tag : Text) (seconds : Nat)
  | badLength (fault : LengthPrefix.Fault)
  | emptyWord
  | unknownEncoding (name : Text)
  | badEncoding (encoding : Value)
  | unencodable
  | unencodableName (name : Text)
  | unsupported (kind : ErrorKind)
  | integer (written : Value) (fault : Numeral.Fault)
  | tooManyDigits (count : Nat)
  | unwritable
  | notANumber
  | outside
  | unindexable
  | notVersion (content : Text)
  | versionTooOld (version : Text) (minimum : List Int)
  | outOfRange
  | missingId
  | notFound
  | noMapping (selector : Value)
  | unknownSetting (name : Text)
  | invalidSetting (source content : Text)
  | address (content : Text) (fault : Address.Fault)
  | stated (kind : ErrorKind) (message : Text)
  deriving DecidableEq

namespace Error

/-- The kind of an error. -/
def kind : Error → ErrorKind
  | framing _ => .framing
  | closed _ => .connectionClosed
  | transport _ => .transport
  | reported (.trap _) _ => .device
  | reported (.fatal _) _ => .fatal
  | reported (.unknown _) _ => .unknownReply
  | rejected _ _ | invalidChallenge _ => .authentication
  | incompleteReply => .runtime
  | tagInUse _ | untagged | unregistered _ => .tag
  | timedOut _ _ => .timeout
  | badLength _ | emptyWord => .value
  | unknownEncoding _ => .lookup
  | badEncoding _ => .type
  | unencodable | unencodableName _ => .unencodable
  | unsupported kind => kind
  | integer _ _ | tooManyDigits _ | unwritable | notANumber | notVersion _ | noMapping _
  | invalidSetting _ _ | address _ _ => .value
  | outside | unindexable => .index
  | versionTooOld _ _ => .versionTooOld
  | outOfRange => .overflow
  | missingId => .missingId
  | notFound => .notFound
  | unknownSetting _ => .key
  | stated kind _ => kind

/-- The message about an integer with too many digits, with what is known of their number. -/
def digitLimitMessage (known : Text) : Text :=
  literal "Exceeds the limit (" ++ Text.ofNat Numeral.maximumDigits ++
    literal " digits) for integer string conversion" ++ known ++
    literal "; use sys.set_int_max_str_digits() to increase the limit"

/-- The message of a failed reading of an integer with too many digits. -/
def tooManyDigitsMessage (count : Nat) : Text :=
  digitLimitMessage (literal ": value has " ++ Text.ofNat count ++ literal " digits")

/-- How much of a malformed integer a message shows, in code points of its quoted form. -/
def shownDigits : Nat := 200

/-- The message of a failed reading of an integer. -/
def integerMessage (written : Value) : Numeral.Fault → Text
  | .malformed =>
      literal "invalid literal for int() with base 10: " ++ written.quoted.take shownDigits
  | .tooManyDigits count => tooManyDigitsMessage count

/-- The message of a framing fault. -/
def framingMessage : FramingFault → Text
  | .reservedByte byte =>
      literal "reserved control byte in length prefix: 0x" ++ Text.ofNatHex 2 byte.toNat
  | .endedInside => literal "stream ended in the middle of a sentence"
  | .truncated => literal "truncated sentence"
  | .trailing => literal "unexpected bytes after the end of the sentence"

/-- The message of a connection that ended. -/
def closedMessage : ClosedCause → Text
  | .byDevice => literal "connection closed by the device"
  | .byCaller => literal "connection closed"
  | .alreadyClosed => literal "connection is closed"
  | .refused reason => literal "connection is closed: " ++ reason
  | .writeFailed reason => literal "write failed: " ++ reason
  | .readFailed reason => literal "read failed: " ++ reason
  | .lost _ reason => literal "connection lost: " ++ reason
  | .stated message => message

/-- The message about a name with surrogates, which tells where their first run stands. -/
def surrogatesMessage (name : Text) : Text :=
  let start := (name.takeWhile fun point => !point.isSurrogate).length
  let place := match (name.drop start).takeWhile CodePoint.isSurrogate with
    | [point] =>
        literal " '\\u" ++ Text.ofNatHex 4 point.val ++ literal "' in position " ++ Text.ofNat start
    | run =>
        literal "s in position " ++ Text.ofNat start ++ literal "-" ++
          Text.ofNat (start + run.length - 1)
  literal "'utf-8' codec can't encode character" ++ place ++ literal ": surrogates not allowed"

/-- The message of a hexadecimal fault. -/
def hexMessage : Hex.Fault → Text
  | .notAscii => literal "string argument should contain only ASCII characters"
  | .oddLength => literal "Odd-length string"
  | .notHexadecimal => literal "Non-hexadecimal digit found"

/-- The message of an error. -/
def message : Error → Text
  | framing fault => framingMessage fault
  | closed cause => closedMessage cause
  | transport reason => reason
  | reported (.unknown sentence) _ =>
      literal "unknown RouterOS reply word: " ++ sentence.word.quoted
  | reported failure _ => literal "from RouterOS device: " ++ failure.description
  | rejected failure _ => literal "authentication rejected: " ++ failure.description
  | invalidChallenge fault =>
      literal "invalid challenge received from the device: " ++ hexMessage fault
  | incompleteReply => literal "reply is not complete"
  | tagInUse tag => literal "tag already in use: " ++ tag
  | untagged => literal "untagged sentence in asynchronous mode"
  | unregistered tag => literal "no request registered for tag " ++ tag
  | timedOut tag seconds =>
      literal "no reply to tag " ++ tag ++ literal " within " ++ Text.ofNat seconds ++
        literal " seconds"
  | badLength .negative => literal "word length cannot be negative"
  | badLength (.tooLong length) =>
      literal "word too long to encode: " ++ Text.ofNat length ++ literal " bytes"
  | emptyWord => literal "empty words cannot be sent, they terminate the sentence"
  | unknownEncoding name => literal "unknown encoding: " ++ name
  | badEncoding encoding =>
      literal "decode() argument 'encoding' must be str, not " ++ encoding.typeName
  | unencodableName name => surrogatesMessage name
  | unencodable | unsupported _ | outOfRange => []
  | integer written fault => integerMessage written fault
  | tooManyDigits count => tooManyDigitsMessage count
  | unwritable => digitLimitMessage []
  | notANumber => literal "cannot convert float NaN to integer"
  | outside => literal "index out of range"
  | unindexable => literal "cannot fit 'int' into an index-sized integer"
  | notVersion content => literal "not a RouterOS version: " ++ content.quoted
  | versionTooOld version minimum =>
      literal "RouterOS " ++ version ++ literal " is older than " ++
        Text.join (literal ".") (minimum.map Text.ofInt)
  | missingId => literal "missing RouterOS .id"
  | notFound => literal "no matching entry on the device"
  | noMapping selector => literal "no mapping for selector: " ++ selector.quoted
  | unknownSetting name => literal "unknown tikapi setting: " ++ name
  | invalidSetting source content =>
      literal "invalid value for " ++ source ++ literal ": " ++ content.quoted
  | address content .unterminated => literal "unterminated IPv6 address: " ++ content
  | address content .invalid => literal "invalid address: " ++ content
  | address _ (.port digits fault) => integerMessage (.text digits) fault
  | stated _ message => message

/-- The error that an error was raised from. -/
def cause? : Error → Option Error
  | closed (.writeFailed reason) | closed (.readFailed reason) => some (transport reason)
  | closed (.lost kind reason) => some (stated kind reason)
  | rejected failure reply => some (reported failure reply)
  | invalidChallenge .notAscii => some (stated .value (hexMessage .notAscii))
  | invalidChallenge fault => some (stated .hexadecimal (hexMessage fault))
  | _ => none

/-- The failure that the device itself reported, if the error is one. -/
def deviceFailure? : Error → Option Failure
  | reported failure _ => if failure.isDeviceReport then some failure else none
  | _ => none

/-- Whether the device reported that an entry exists already. -/
def isAlreadyExists (error : Error) : Bool :=
  match error.deviceFailure? with
  | some failure =>
      Text.mentions (literal "already have") failure.description ||
        Text.mentions (literal "already exists") failure.description
  | none => false

/-- The error of a duration that could not be read. -/
def ofDuration : Duration.Fault → Error
  | .overflow => outOfRange
  | .tooManyDigits count => tooManyDigits count

end Error

/-- The text that a value is. Bytes are of the wrong type, and any other value lacks what is asked
of a text. -/
def Value.asText : Value → Except Error Text
  | text content => .ok content
  | bytes _ => .error (.unsupported .type)
  | _ => .error (.unsupported .missingAttribute)

/-- The position in a sequence that a value is: an integer or a truth value, in 64 bits. -/
def Value.asIndex (value : Value) : Except Error Int :=
  match value.integer? with
  | some number =>
      if -0x8000000000000000 ≤ number ∧ number < 0x8000000000000000 then .ok number
      else .error .unindexable
  | none => .error (.unsupported .type)

namespace Reply

/-- The error recorded in a reply, which refers to the reply. -/
def error? (reply : Reply) : Option Error :=
  reply.failure.map fun failure => .reported failure (some reply)

/-- A reply that completed without a failure, or the error. -/
def result (reply : Reply) : Except Error Reply :=
  match reply.error? with
  | some error => .error error
  | none => if reply.progress = .done then .ok reply else .error .incompleteReply

end Reply
end RouterApi
