import RouterApi.Proofs.Assoc
import RouterApi.Proofs.Duration.Sums
import RouterApi.Record

/-!
# Lenient reading

What a converter that reads leniently makes of a text, and which sentences a mapping of such
converters decodes. A text that denotes nothing is read as the fallback of the converter. The one
exception is a duration that is too great, or has too many digits in one of its counts, which is an
error.
-/

namespace RouterApi

/-! ## Durations -/

namespace Duration

variable {content body number : Text} {negative : Bool} {unit : TimeUnit} {count : Binary64}
  {duration : Duration}

/-- A text denotes a duration if it is a decimal fraction of a unit, rounded, or counted units that
add up, with the sign in front of them. -/
inductive Denotes (content : Text) (duration : Duration) : Prop
  | fraction
      {negative : Bool}
      {body number : Text}
      {unit : TimeUnit}
      {count : Binary64}
      (signed : Numeral.splitSign content = (negative, body))
      (parted : fraction? body = some (number, unit))
      (isNumber : Numeral.readFloat number = .ok count)
      (scaled : scaleFloat? (if negative then count.negate else count) unit.duration =
        some duration)
  | counted
      {negative : Bool}
      {body : Text}
      (signed : Numeral.splitSign content = (negative, body))
      (uncut : fraction? body = none)
      (addUp : AddUp 0 (counts body))
      (equal : duration.microseconds = factor negative * total (counts body))

/-- A text exceeds the durations if it is a decimal fraction of a unit out of their range, or
counted units that do not add up within it. -/
inductive Exceeds (content : Text) : Prop
  | fraction
      {negative : Bool}
      {body number : Text}
      {unit : TimeUnit}
      {count : Binary64}
      (signed : Numeral.splitSign content = (negative, body))
      (parted : fraction? body = some (number, unit))
      (isNumber : Numeral.readFloat number = .ok count)
      (missed : scaleFloat? (if negative then count.negate else count) unit.duration = none)
  | counted
      {negative : Bool}
      {body : Text}
      (signed : Numeral.splitSign content = (negative, body))
      (uncut : fraction? body = none)
      (missed : ¬ (AddUp 0 (counts body) ∧ IsInRange (factor negative * total (counts body))))

theorem read_of_fraction
    (signed : Numeral.splitSign content = (negative, body))
    (parted : fraction? body = some (number, unit)) :
    read content = ofFraction negative number unit := by
  unfold read
  split
  · rename_i isEmpty
    cases List.isEmpty_iff.mp isEmpty
    cases signed
    contradiction
  · rw [signed]
    simp only [parted]

theorem read_of_denotes
    (denotes : Denotes content duration) :
    read content = .ok duration := by
  cases denotes with
  | fraction signed parted isNumber scaled =>
      rw [read_of_fraction signed parted, ofFraction]
      simp only [isNumber, scaled]
  | counted signed uncut addUp equal =>
      exact (read_eq_ok_iff_of_counted signed uncut).mpr ⟨addUp, equal⟩

theorem read_of_exceeds
    (exceeds : Exceeds content) :
    ∃ fault, read content = .error fault := by
  cases exceeds with
  | fraction signed parted isNumber missed =>
      refine ⟨.overflow, ?_⟩
      rw [read_of_fraction signed parted, ofFraction]
      simp only [isNumber, missed]
  | counted signed uncut missed =>
      cases result : read content with
      | error fault => exact ⟨fault, rfl⟩
      | ok duration =>
          obtain ⟨addUp, equal⟩ := (read_eq_ok_iff_of_counted signed uncut).mp result
          exact absurd ⟨addUp, equal ▸ duration.isInRange⟩ missed

/-- What reading a text comes to. -/
inductive Outcome (content : Text) : Except Fault Duration → Prop
  | denotes (duration : Duration) (denotes : Denotes content duration) :
      Outcome content (.ok duration)
  | malformed (silent : ∀ duration, ¬ Denotes content duration) : Outcome content (.ok zero)
  | exceeds (fault : Fault) (exceeds : Exceeds content) : Outcome content (.error fault)

theorem outcome_read (content : Text) : Outcome content (read content) := by
  cases signed : Numeral.splitSign content with
  | mk negative body =>
  cases parted : fraction? body with
  | none =>
      cases result : read content with
      | ok duration =>
          obtain ⟨addUp, equal⟩ := (read_eq_ok_iff_of_counted signed parted).mp result
          exact .denotes duration (.counted signed parted addUp equal)
      | error fault =>
          refine .exceeds fault (.counted signed parted fun ⟨addUp, isInRange⟩ => ?_)
          have succeeded : read content = .ok ⟨_, isInRange.1, isInRange.2⟩ :=
            (read_eq_ok_iff_of_counted signed parted).mpr ⟨addUp, rfl⟩
          rw [succeeded] at result
          contradiction
  | some part =>
      obtain ⟨number, unit⟩ := part
      rw [read_of_fraction signed parted, ofFraction]
      split
      · rename_i fault isNoNumber
        refine .malformed fun duration denotes => ?_
        cases denotes with
        | fraction alsoSigned alsoParted isNumber =>
            cases signed.symm.trans alsoSigned
            cases parted.symm.trans alsoParted
            rw [isNoNumber] at isNumber
            contradiction
        | counted alsoSigned uncut =>
            cases signed.symm.trans alsoSigned
            rw [parted] at uncut
            contradiction
      · rename_i count isNumber
        split
        · rename_i duration scaled
          exact .denotes duration (.fraction signed parted isNumber scaled)
        · rename_i missed
          exact .exceeds .overflow (.fraction signed parted isNumber missed)

/-- Reading fails exactly for what exceeds the durations. -/
theorem exceeds_iff : Exceeds content ↔ ∃ fault, read content = .error fault := by
  refine ⟨read_of_exceeds, ?_⟩
  rintro ⟨fault, failed⟩
  have outcome := outcome_read content
  rw [failed] at outcome
  cases outcome with
  | exceeds _ exceeds => exact exceeds

end Duration

/-! ## Texts -/

namespace Converter

/-- The value that a converter gives for a text that denotes nothing, if it reads leniently. -/
def fallback? : Converter → Option Value
  | readTruth => some (.bool false)
  | readInteger => some (.int 0)
  | readHexadecimal => some (.int 0)
  | readDecimal => some (.float ⟨0⟩)
  | readTimestamp => some .null
  | readDuration => some (.duration .zero)
  | _ => none

/-- The digits of a text in hexadecimal, without the marker that may stand in front of them. -/
def unmarked (content : Text) : Text :=
  if (content.take 2).map CodePoint.toLower == literal "0x" then content.drop 2 else content

/-- What a text denotes to a converter that reads leniently. -/
inductive Denotes : Converter → Text → Value → Prop
  | truth
      (content : Text) :
      Denotes .readTruth content (.bool (truthOf content))
  | integer
      {content : Text}
      {number : Int}
      (isNumber : Numeral.readInt content = .ok number) :
      Denotes .readInteger content (.int number)
  | hexadecimal
      {content : Text}
      {number : Int}
      (isNumber : Numeral.readHex (unmarked content) = .ok number) :
      Denotes .readHexadecimal content (.int number)
  | decimal
      {content : Text}
      {number : Binary64}
      (isNumber : Numeral.readFloat content = .ok number) :
      Denotes .readDecimal content (.float number)
  | timestamp
      {content : Text}
      {moment : Timestamp}
      (isMoment : Timestamp.read? content = some moment) :
      Denotes .readTimestamp content (.time moment)
  | duration
      {content : Text}
      {span : Duration}
      (denotes : Duration.Denotes content span) :
      Denotes .readDuration content (.duration span)

/-- A converter reads a text leniently if it gives what the text denotes, or else its fallback. -/
def ReadsLeniently (converter : Converter) (content : Text) : Prop :=
  ∃ value, converter.apply (.text content) = .ok value ∧
    (converter.Denotes content value ∨
      (∀ other, ¬ converter.Denotes content other) ∧ converter.fallback? = some value)

variable {converter : Converter} {content : Text} {value : Value}

theorem apply_readInteger (content : Text) :
    readInteger.apply (.text content) = .ok (.int (integerOf content)) :=
  rfl

theorem apply_readHexadecimal (content : Text) :
    readHexadecimal.apply (.text content) = .ok (.int (hexadecimalOf content)) :=
  rfl

theorem apply_readDecimal (content : Text) :
    readDecimal.apply (.text content) = .ok (.float (decimalOf content)) :=
  rfl

theorem apply_readTimestamp (content : Text) :
    readTimestamp.apply (.text content) = .ok ((Timestamp.read? content).elim .null .time) := by
  simp only [apply, applyText]
  cases Timestamp.read? content <;> rfl

theorem apply_readDuration (content : Text) :
    readDuration.apply (.text content) =
      ((Duration.read content).map .duration).mapError .ofDuration := by
  simp only [apply, applyText]
  cases Duration.read content <;> rfl

/-- What a text denotes is what the converter gives. -/
theorem apply_of_denotes
    (denotes : converter.Denotes content value) :
    converter.apply (.text content) = .ok value := by
  cases denotes with
  | truth => rfl
  | integer isNumber => rw [apply_readInteger, integerOf, isNumber]
  | hexadecimal isNumber =>
      rw [unmarked] at isNumber
      rw [apply_readHexadecimal, hexadecimalOf, isNumber]
  | decimal isNumber => rw [apply_readDecimal, decimalOf, isNumber]
  | timestamp isMoment =>
      rw [apply_readTimestamp, isMoment]
      rfl
  | duration denotes =>
      rw [apply_readDuration, Duration.read_of_denotes denotes]
      rfl

theorem readsLeniently_of_denotes
    (denotes : converter.Denotes content value) :
    converter.ReadsLeniently content :=
  ⟨value, apply_of_denotes denotes, .inl denotes⟩

theorem readsLeniently_of_silent
    (value : Value)
    (applied : converter.apply (.text content) = .ok value)
    (falls : converter.fallback? = some value)
    (silent : ∀ other, ¬ converter.Denotes content other) :
    converter.ReadsLeniently content :=
  ⟨value, applied, .inr ⟨silent, falls⟩⟩

theorem readsLeniently_readInteger (content : Text) : readInteger.ReadsLeniently content := by
  cases result : Numeral.readInt content with
  | ok number => exact readsLeniently_of_denotes (.integer result)
  | error fault =>
      refine readsLeniently_of_silent (.int 0) ?_ rfl fun other denotes => ?_
      · rw [apply_readInteger, integerOf, result]
      · cases denotes with
        | integer isNumber =>
            rw [result] at isNumber
            contradiction

theorem readsLeniently_readHexadecimal (content : Text) :
    readHexadecimal.ReadsLeniently content := by
  cases result : Numeral.readHex (unmarked content) with
  | ok number => exact readsLeniently_of_denotes (.hexadecimal result)
  | error fault =>
      refine readsLeniently_of_silent (.int 0) ?_ rfl fun other denotes => ?_
      · rw [unmarked] at result
        rw [apply_readHexadecimal, hexadecimalOf, result]
      · cases denotes with
        | hexadecimal isNumber =>
            rw [result] at isNumber
            contradiction

theorem readsLeniently_readDecimal (content : Text) : readDecimal.ReadsLeniently content := by
  cases result : Numeral.readFloat content with
  | ok number => exact readsLeniently_of_denotes (.decimal result)
  | error fault =>
      refine readsLeniently_of_silent (.float ⟨0⟩) ?_ rfl fun other denotes => ?_
      · rw [apply_readDecimal, decimalOf, result]
      · cases denotes with
        | decimal isNumber =>
            rw [result] at isNumber
            contradiction

theorem readsLeniently_readTimestamp (content : Text) :
    readTimestamp.ReadsLeniently content := by
  cases result : Timestamp.read? content with
  | some moment => exact readsLeniently_of_denotes (.timestamp result)
  | none =>
      refine readsLeniently_of_silent .null ?_ rfl fun other denotes => ?_
      · rw [apply_readTimestamp, result]
        rfl
      · cases denotes with
        | timestamp isMoment =>
            rw [result] at isMoment
            contradiction

/-- A duration that exceeds its range has no value. -/
theorem not_exceeds_of_apply
    (applied : readDuration.apply (.text content) = .ok value) :
    ¬ Duration.Exceeds content := by
  intro exceeds
  obtain ⟨fault, failed⟩ := Duration.read_of_exceeds exceeds
  rw [apply_readDuration, failed] at applied
  contradiction

theorem readsLeniently_readDuration_iff :
    readDuration.ReadsLeniently content ↔ ¬ Duration.Exceeds content := by
  constructor
  · rintro ⟨value, applied, -⟩
    exact not_exceeds_of_apply applied
  · intro fits
    have outcome := Duration.outcome_read content
    generalize result : Duration.read content = found at outcome
    cases outcome with
    | denotes span denotes => exact readsLeniently_of_denotes (.duration denotes)
    | malformed silent =>
        refine readsLeniently_of_silent (.duration .zero) ?_ rfl fun other denotes => ?_
        · rw [apply_readDuration, result]
          rfl
        · cases denotes with
          | duration denotes => exact silent _ denotes
    | exceeds fault exceeds => exact absurd exceeds fits

/-- Every lenient converter reads every text leniently, except for a duration that exceeds its
range. -/
theorem readsLeniently_iff
    (isLenient : converter.fallback?.isSome = true) :
    converter.ReadsLeniently content ↔
      (converter = .readDuration → ¬ Duration.Exceeds content) := by
  cases converter with
  | readTruth => simp [readsLeniently_of_denotes (.truth content)]
  | readInteger => simp [readsLeniently_readInteger]
  | readHexadecimal => simp [readsLeniently_readHexadecimal]
  | readDecimal => simp [readsLeniently_readDecimal]
  | readTimestamp => simp [readsLeniently_readTimestamp]
  | readDuration => simp [readsLeniently_readDuration_iff]
  | _ => contradiction

/-- A converter that reads leniently, or keeps the text, gives a value unless a duration exceeds
its range. -/
theorem exists_apply_text_iff
    (isLenient : converter = .display ∨ converter.fallback?.isSome = true) :
    (∃ value, converter.apply (.text content) = .ok value) ↔
      (converter = .readDuration → ¬ Duration.Exceeds content) := by
  constructor
  · rintro ⟨value, applied⟩ rfl
    exact not_exceeds_of_apply applied
  · intro fits
    rcases isLenient with rfl | isLenient
    · exact ⟨.text content, rfl⟩
    · obtain ⟨value, applied, -⟩ := (readsLeniently_iff isLenient).mpr fits
      exact ⟨value, applied⟩

end Converter

/-! ## Sentences -/

theorem Attributes.get?_ofSentence
    (key : Text)
    (sentence : Sentence) :
    Assoc.get? key (ofSentence sentence) = (sentence.attribute? key).map .text := by
  rw [ofSentence, Assoc.get?_map]
  rfl

/-- Building a record succeeds exactly if the values of all attributes that are present can be
parsed. -/
theorem Binding.exists_decodeOnto_iff
    {attributes : Attributes}
    {record : Record}
    {bindings : List Binding} :
    (∃ decoded, decodeOnto attributes record bindings = .ok decoded) ↔
      ∀ binding ∈ bindings, ∀ written,
        Assoc.get? binding.attributeName attributes = some written →
          ∃ value, binding.parse written = .ok value := by
  induction bindings generalizing record with
  | nil => simp [decodeOnto]
  | cons binding rest inductionHypothesis =>
      rw [List.forall_mem_cons, decodeOnto]
      cases found : Assoc.get? binding.attributeName attributes with
      | none => simp [inductionHypothesis]
      | some written =>
          cases parsed : binding.parse written with
          | error error => simp [parsed]
          | ok value => simp [parsed, inductionHypothesis]

namespace Mapping

variable {mapping : Mapping}

/-- A mapping is lenient if each of its fields is read leniently or kept as it is. -/
def IsLenient (mapping : Mapping) : Prop :=
  ∀ field ∈ mapping.fields, field.parse = .display ∨ field.parse.fallback?.isSome = true

/-- A mapping can hold a sentence if no attribute of it that is read as a duration exceeds its
range. -/
def Holds (mapping : Mapping) (sentence : Sentence) : Prop :=
  ∀ field ∈ mapping.fields, field.parse = .readDuration →
    ∀ content, sentence.attribute? field.attributeName = some content →
      ¬ Duration.Exceeds content

theorem exists_decode_iff
    (isLenient : mapping.IsLenient)
    (sentence : Sentence) :
    (∃ record, mapping.decode (.ofSentence sentence) = .ok record) ↔ mapping.Holds sentence := by
  unfold decode Binding.decode bindings
  rw [Binding.exists_decodeOnto_iff, List.forall_mem_map]
  refine forall₂_congr fun field member => ?_
  constructor
  · intro parses isDuration content found
    refine (Converter.exists_apply_text_iff (isLenient field member)).mp ?_ isDuration
    refine parses (.text content) ?_
    rw [Attributes.get?_ofSentence, Field.binding, found]
    rfl
  · intro fits written found
    rw [Attributes.get?_ofSentence, Field.binding, Option.map_eq_some_iff] at found
    obtain ⟨content, found, rfl⟩ := found
    exact (Converter.exists_apply_text_iff (isLenient field member)).mpr
      fun isDuration => fits isDuration content found

theorem exists_decodeEach_iff
    (isLenient : mapping.IsLenient)
    (sentences : List Sentence) :
    (∃ records, mapping.decodeEach sentences = .ok records) ↔
      ∀ sentence ∈ sentences, mapping.Holds sentence := by
  induction sentences with
  | nil => simp [decodeEach]
  | cons sentence rest inductionHypothesis =>
      rw [List.forall_mem_cons, ← exists_decode_iff isLenient, ← inductionHypothesis, decodeEach]
      cases mapping.decode (.ofSentence sentence) with
      | error error => simp
      | ok record =>
          cases mapping.decodeEach rest with
          | error error => simp
          | ok records => simp

end Mapping

/-- A lenient converter gives what a text denotes or else its fallback, and a mapping of lenient
converters decodes every sentence and every reply, in each case unless a duration exceeds its
range. -/
theorem lenient_unless_exceeds
    {converter : Converter}
    {mapping : Mapping}
    (hasFallback : converter.fallback?.isSome = true)
    (isLenient : mapping.IsLenient) :
    (∀ content, converter.ReadsLeniently content ↔
      (converter = .readDuration → ¬ Duration.Exceeds content)) ∧
    (∀ sentence, (∃ record, mapping.decode (.ofSentence sentence) = .ok record) ↔
      mapping.Holds sentence) ∧
    ∀ reply, (∃ records, mapping.decodeAll reply = .ok records) ↔
      ∀ sentence ∈ reply.data, mapping.Holds sentence := by
  refine ⟨?_, ?_, ?_⟩
  · intro content
    exact Converter.readsLeniently_iff hasFallback
  · intro sentence
    exact Mapping.exists_decode_iff isLenient sentence
  · intro reply
    exact Mapping.exists_decodeEach_iff isLenient reply.data

/-- How long a device has been up, and its load. -/
def resourceFields : Mapping where
  fields := [
    { name := literal "uptime", attributeName := literal "uptime", parse := .readDuration },
    { name := literal "load", attributeName := literal "cpu-load", parse := .readInteger }]

/-- A load that is no number is read as zero, while one duration out of range spoils a whole reply.
-/
theorem exists_decode_resources :
    resourceFields.IsLenient ∧
      Converter.readInteger.ReadsLeniently (literal "high") ∧
      (∃ record, resourceFields.decode (.ofSentence (.opening (.text (literal "!re"))
        [literal "=uptime=1d2h", literal "=cpu-load=high"])) = .ok record) ∧
      ¬ ∃ records, resourceFields.decodeAll
        { data := [.opening (.text (literal "!re")) [literal "=uptime=1d2h"],
            .opening (.text (literal "!re")) [literal "=uptime=142857143w"]] } = .ok records := by
  have isLenient : resourceFields.IsLenient := by
    intro field member
    rcases List.mem_pair.mp member with rfl | rfl <;> exact .inr rfl
  have fits : ¬ Duration.Exceeds (literal "1d2h") := by
    rw [Duration.exceeds_iff]
    rintro ⟨fault, failed⟩
    have read : Duration.read (literal "1d2h") = .ok ⟨93600000000, by decide, by decide⟩ := rfl
    rw [read] at failed
    contradiction
  have exceeds : Duration.Exceeds (literal "142857143w") :=
    Duration.exceeds_iff.mpr ⟨.overflow, rfl⟩
  have hasFallback : Converter.readInteger.fallback?.isSome = true := rfl
  obtain ⟨reads, decodes, decodesAll⟩ := lenient_unless_exceeds hasFallback isLenient
  refine ⟨isLenient, (reads (literal "high")).mpr nofun, ?_, ?_⟩
  · rw [decodes]
    intro field member isDuration content found
    rcases List.mem_pair.mp member with rfl | rfl
    · cases found
      exact fits
    · contradiction
  · rw [decodesAll]
    intro holds
    refine holds _ (List.mem_cons_of_mem _ List.mem_cons_self) _ List.mem_cons_self rfl _ rfl
      exceeds

/-- Not every duration is read leniently: this one has more weeks than a duration can have. -/
theorem not_forall_readsLeniently :
    ¬ ∀ converter : Converter, converter.fallback?.isSome = true →
      ∀ content, converter.ReadsLeniently content := by
  intro lenient
  obtain ⟨value, applied, -⟩ := lenient .readDuration rfl (literal "142857143w")
  have failed : Converter.readDuration.apply (.text (literal "142857143w")) =
      .error (.ofDuration .overflow) := rfl
  rw [failed] at applied
  contradiction

end RouterApi
