import RouterApi.Numeral

/-!
# Addresses

A device is addressed by a host and, optionally, a port. The port follows the host after a colon. A
host that itself contains colons is either written alone or between brackets, and only the bracketed
form can name a port.
-/

namespace RouterApi
namespace Address

/-- Why a text is no address. -/
inductive Fault
  | unterminated
  | invalid
  | port (digits : Text) (fault : Numeral.Fault)
  deriving DecidableEq, Repr

/-- Read the port of an address. -/
def readPort (digits : Text) : Except Fault Int :=
  match Numeral.readInt digits with
  | .ok port => .ok port
  | .error fault => .error (.port digits fault)

/-- Split a bracketed address, given what follows the opening bracket. -/
def splitBracketed (content : Text) : Except Fault (Text × Option Int) :=
  match Text.splitAtFirst? (CodePoint.ofChar ']') content with
  | none => .error .unterminated
  | some (host, []) => .ok (host, none)
  | some (host, point :: rest) =>
      if point == CodePoint.ofChar ':' then (readPort rest).map fun port => (host, some port)
      else .error .invalid

/-- Split an address into its host and the port that it names, if it names one. -/
def split (address : Text) : Except Fault (Text × Option Int) :=
  match address with
  | [] => .ok ([], none)
  | first :: rest =>
      if first == CodePoint.ofChar '[' then splitBracketed rest
      else
        match Text.splitAtFirst? (CodePoint.ofChar ':') address with
        | none => .ok (address, none)
        | some (host, port) =>
            if port.contains (CodePoint.ofChar ':') then .ok (address, none)
            else (readPort port).map fun port => (host, some port)

end Address
end RouterApi
