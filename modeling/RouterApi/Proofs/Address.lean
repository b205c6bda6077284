import RouterApi.Dial
import RouterApi.Proofs.Numeral

/-!
# Forms of addresses

An address is one of five: a host alone, a host and a port with a colon between them, a host with
colons of its own, and a bracketed host with or without a port. Splitting tells them apart, so a
host and a port that were joined come back, and the only addresses that are refused are those whose
brackets do not match and those whose port is no integer.
-/

namespace RouterApi
namespace Address

variable {address host port : Text} {written : Option Text} {number : Int}

/-- Whether an address does not begin with a bracket. -/
def IsUnbracketed (address : Text) : Prop :=
  address.head? ≠ some (CodePoint.ofChar '[')

/-- The forms of addresses: the host that an address names, and its port as it is written, if there
is one. -/
inductive Names : Text → Text → Option Text → Prop
  | host
      {host : Text}
      (unbracketed : IsUnbracketed host)
      (plain : CodePoint.ofChar ':' ∉ host) :
      Names host host none
  | hostWithPort
      {host port : Text}
      (unbracketed : IsUnbracketed host)
      (plain : CodePoint.ofChar ':' ∉ host)
      (plainPort : CodePoint.ofChar ':' ∉ port) :
      Names (host ++ CodePoint.ofChar ':' :: port) host (some port)
  | bare
      {host : Text}
      (unbracketed : IsUnbracketed host)
      (colons : 2 ≤ host.count (CodePoint.ofChar ':')) :
      Names host host none
  | bracketed
      {host : Text}
      (closed : CodePoint.ofChar ']' ∉ host) :
      Names (CodePoint.ofChar '[' :: host ++ [CodePoint.ofChar ']']) host none
  | bracketedWithPort
      {host port : Text}
      (closed : CodePoint.ofChar ']' ∉ host) :
      Names
        (CodePoint.ofChar '[' :: host ++ CodePoint.ofChar ']' :: CodePoint.ofChar ':' :: port)
        host (some port)

/-- An address of no form begins with a bracket, and what follows is not closed, or is followed by
something else than a port. -/
inductive IsMalformed : Text → Prop
  | unterminated
      {rest : Text}
      (opened : CodePoint.ofChar ']' ∉ rest) :
      IsMalformed (CodePoint.ofChar '[' :: rest)
  | trailing
      {host rest : Text}
      {point : CodePoint}
      (closed : CodePoint.ofChar ']' ∉ host)
      (different : point ≠ CodePoint.ofChar ':') :
      IsMalformed (CodePoint.ofChar '[' :: host ++ CodePoint.ofChar ']' :: point :: rest)

/-- A colon that is not the first one makes two. -/
theorem two_le_count_iff
    {before after : Text}
    (plain : CodePoint.ofChar ':' ∉ before) :
    2 ≤ (before ++ CodePoint.ofChar ':' :: after).count (CodePoint.ofChar ':') ↔
      CodePoint.ofChar ':' ∈ after := by
  rw [List.count_append, List.count_eq_zero_of_not_mem plain, List.count_cons_self,
    ← List.count_pos_iff]
  omega

/-- Every address has a form or is malformed. -/
theorem exists_names_or_isMalformed (address : Text) :
    (∃ host written, Names address host written) ∨ IsMalformed address := by
  by_cases unbracketed : IsUnbracketed address
  · left
    rcases Text.exists_eq_append_or_not_mem (CodePoint.ofChar ':') address with
      ⟨host, port, rfl, plain⟩ | plain
    · by_cases plainPort : CodePoint.ofChar ':' ∈ port
      · exact ⟨_, _, .bare unbracketed ((two_le_count_iff plain).mpr plainPort)⟩
      · refine ⟨_, _, .hostWithPort ?_ plain plainPort⟩
        cases host with
        | nil => exact nofun
        | cons first rest => exact unbracketed
    · exact ⟨_, _, .host unbracketed plain⟩
  · obtain ⟨rest, rfl⟩ := List.head?_eq_some_iff.mp (Decidable.not_not.mp unbracketed)
    rcases Text.exists_eq_append_or_not_mem (CodePoint.ofChar ']') rest with
      ⟨host, after, rfl, closed⟩ | opened
    · cases after with
      | nil => exact .inl ⟨_, _, .bracketed closed⟩
      | cons point port =>
          by_cases colon : point = CodePoint.ofChar ':'
          · subst colon
            exact .inl ⟨_, _, .bracketedWithPort closed⟩
          · exact .inr (.trailing closed colon)
    · exact .inr (.unterminated opened)

/-! ## Splitting -/

theorem split_of_isUnbracketed (unbracketed : IsUnbracketed address) :
    split address =
      match Text.splitAtFirst? (CodePoint.ofChar ':') address with
      | none => .ok (address, none)
      | some (host, port) =>
          if port.contains (CodePoint.ofChar ':') then .ok (address, none)
          else (readPort port).map fun number => (host, some number) := by
  cases address with
  | nil => rfl
  | cons first rest =>
      have different : ¬ (first == CodePoint.ofChar '[') = true := fun same =>
        unbracketed (congrArg some (eq_of_beq same))
      show (if (first == CodePoint.ofChar '[') = true then splitBracketed rest else _) = _
      exact if_neg different

/-- The port that is read is the one that is written. -/
theorem split_of_names (names : Names address host written) :
    split address =
      written.elim (.ok (host, none)) fun port =>
        (readPort port).map fun number => (host, some number) := by
  cases names with
  | host unbracketed plain =>
      rw [split_of_isUnbracketed unbracketed, Text.splitAtFirst?_of_not_mem plain]
      rfl
  | @hostWithPort host port unbracketed plain plainPort =>
      have begins : IsUnbracketed (host ++ CodePoint.ofChar ':' :: port) := by
        cases host with
        | nil => exact nofun
        | cons first rest => exact unbracketed
      rw [split_of_isUnbracketed begins, Text.splitAtFirst?_append plain]
      simp [plainPort]
  | bare unbracketed colons =>
      rw [split_of_isUnbracketed unbracketed]
      rcases Text.exists_eq_append_or_not_mem (CodePoint.ofChar ':') address with
        ⟨before, after, rfl, plain⟩ | plain
      · rw [Text.splitAtFirst?_append plain]
        simp [(two_le_count_iff plain).mp colons]
      · rw [Text.splitAtFirst?_of_not_mem plain]
        rfl
  | bracketed closed =>
      show splitBracketed (host ++ [CodePoint.ofChar ']']) = _
      rw [splitBracketed, Text.splitAtFirst?_append closed]
      rfl
  | @bracketedWithPort host port closed =>
      show splitBracketed (host ++ CodePoint.ofChar ']' :: CodePoint.ofChar ':' :: port) = _
      rw [splitBracketed, Text.splitAtFirst?_append closed]
      rfl

theorem split_of_isMalformed (malformed : IsMalformed address) :
    ∃ fault, split address = .error fault := by
  cases malformed with
  | @unterminated rest opened =>
      refine ⟨.unterminated, ?_⟩
      show splitBracketed rest = _
      rw [splitBracketed, Text.splitAtFirst?_of_not_mem opened]
  | @trailing host rest point closed different =>
      refine ⟨.invalid, ?_⟩
      show splitBracketed (host ++ CodePoint.ofChar ']' :: point :: rest) = _
      rw [splitBracketed, Text.splitAtFirst?_append closed]
      simp [different]

/-! ## Endpoints -/

theorem readPort_eq_ok_iff : readPort port = .ok number ↔ Numeral.Denotes port number := by
  rw [← Numeral.readInt_eq_ok_iff]
  unfold readPort
  cases Numeral.readInt port <;> simp

theorem endpoint_text (address : Text) (defaultPort : Value) :
    Dial.endpoint (.text address) defaultPort =
      match split address with
      | .error fault => .error (.address address fault)
      | .ok (host, named) => .ok (host, named.elim defaultPort .int) :=
  rfl

theorem endpoint_of_names
    (names : Names address host none)
    (defaultPort : Value) :
    Dial.endpoint (.text address) defaultPort = .ok (host, defaultPort) := by
  rw [endpoint_text, split_of_names names]
  rfl

theorem endpoint_of_names_of_denotes
    (names : Names address host (some port))
    (denotes : Numeral.Denotes port number)
    (defaultPort : Value) :
    Dial.endpoint (.text address) defaultPort = .ok (host, .int number) := by
  rw [endpoint_text, split_of_names names, Option.elim_some, readPort_eq_ok_iff.mpr denotes]
  rfl

/-- An address is accepted exactly if it has a form, and its port is an integer if it is written. -/
theorem endpoint_eq_ok_iff
    {defaultPort given : Value} :
    Dial.endpoint (.text address) defaultPort = .ok (host, given) ↔
      Names address host none ∧ given = defaultPort ∨
        ∃ port number, Names address host (some port) ∧ Numeral.Denotes port number ∧
          given = .int number := by
  constructor
  · intro accepted
    rcases exists_names_or_isMalformed address with ⟨named, written, names⟩ | malformed
    · cases written with
      | none =>
          rw [endpoint_of_names names] at accepted
          cases accepted
          exact .inl ⟨names, rfl⟩
      | some port =>
          cases read : readPort port with
          | ok number =>
              have denotes := readPort_eq_ok_iff.mp read
              rw [endpoint_of_names_of_denotes names denotes] at accepted
              cases accepted
              exact .inr ⟨port, number, names, denotes, rfl⟩
          | error fault =>
              rw [endpoint_text, split_of_names names, Option.elim_some, read] at accepted
              cases accepted
    · obtain ⟨fault, failed⟩ := split_of_isMalformed malformed
      rw [endpoint_text, failed] at accepted
      cases accepted
  · rintro (⟨names, rfl⟩ | ⟨port, number, names, denotes, rfl⟩)
    · exact endpoint_of_names names given
    · exact endpoint_of_names_of_denotes names denotes defaultPort

/-- An address that is refused is an error about a value. -/
theorem kind_of_endpoint_eq_error
    {defaultPort : Value}
    {error : Error}
    (failed : Dial.endpoint (.text address) defaultPort = .error error) :
    error.kind = .value := by
  rw [endpoint_text] at failed
  cases result : split address with
  | ok parts => simp [result] at failed
  | error fault =>
      rw [result] at failed
      cases failed
      rfl

/-- What splitting makes of addresses that were joined of a host and a port, and of all others. -/
structure SplitsBack (defaultPort : Value) : Prop where
  /-- A host and a port that were joined come back. -/
  hostWithPort : ∀ (host : Text) (number : Nat),
    CodePoint.ofChar ':' ∉ host → IsUnbracketed host →
      (Text.ofNat number).length ≤ Numeral.maximumDigits →
        Dial.endpoint (.text (host ++ CodePoint.ofChar ':' :: Text.ofNat number)) defaultPort =
          .ok (host, .int number)
  /-- A host alone has the default port. -/
  host : ∀ host : Text,
    CodePoint.ofChar ':' ∉ host → IsUnbracketed host →
      Dial.endpoint (.text host) defaultPort = .ok (host, defaultPort)
  /-- A bracketed host and a port that were joined come back. -/
  bracketedWithPort : ∀ (host : Text) (number : Nat),
    CodePoint.ofChar ']' ∉ host →
      (Text.ofNat number).length ≤ Numeral.maximumDigits →
        Dial.endpoint
            (.text (CodePoint.ofChar '[' :: host ++
              CodePoint.ofChar ']' :: CodePoint.ofChar ':' :: Text.ofNat number))
            defaultPort =
          .ok (host, .int number)
  /-- A bracketed host alone has the default port. -/
  bracketed : ∀ host : Text,
    CodePoint.ofChar ']' ∉ host →
      Dial.endpoint (.text (CodePoint.ofChar '[' :: host ++ [CodePoint.ofChar ']'])) defaultPort =
        .ok (host, defaultPort)
  /-- A host with colons of its own has the default port. -/
  bare : ∀ host : Text,
    2 ≤ host.count (CodePoint.ofChar ':') → IsUnbracketed host →
      Dial.endpoint (.text host) defaultPort = .ok (host, defaultPort)
  /-- Any address that is accepted has the default port if no port is written, or else the port
  that the text after the colon denotes. -/
  accepted : ∀ (address host : Text) (port : Value),
    Dial.endpoint (.text address) defaultPort = .ok (host, port) ↔
      Names address host none ∧ port = defaultPort ∨
        ∃ digits number, Names address host (some digits) ∧ Numeral.Denotes digits number ∧
          port = .int number
  /-- Any other address is an error about a value. -/
  refused : ∀ (address : Text) (error : Error),
    Dial.endpoint (.text address) defaultPort = .error error → error.kind = .value

/-- Addresses are split back into what they were joined from. -/
theorem splitsBack (defaultPort : Value) : SplitsBack defaultPort where
  hostWithPort host number plain unbracketed few := by
    have plainPort : CodePoint.ofChar ':' ∉ Text.ofNat number := fun member =>
      CodePoint.ne_of_isDigit (Text.isDigit_of_mem_ofNat member) (by decide) rfl
    exact endpoint_of_names_of_denotes (.hostWithPort unbracketed plain plainPort)
      (Numeral.readInt_eq_ok_iff.mp (Numeral.readInt_ofNat few)) defaultPort
  host host plain unbracketed := endpoint_of_names (.host unbracketed plain) defaultPort
  bracketedWithPort host number closed few :=
    endpoint_of_names_of_denotes (.bracketedWithPort closed)
      (Numeral.readInt_eq_ok_iff.mp (Numeral.readInt_ofNat few)) defaultPort
  bracketed host closed := endpoint_of_names (.bracketed closed) defaultPort
  bare host colons unbracketed := endpoint_of_names (.bare unbracketed colons) defaultPort
  accepted _ _ _ := endpoint_eq_ok_iff
  refused _ _ := kind_of_endpoint_eq_error

end Address
end RouterApi
