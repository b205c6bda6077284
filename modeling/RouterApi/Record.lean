import RouterApi.Record.Converter

/-!
# Records

A mapping describes a type of record: which attribute of the device each field corresponds to, and
how values are converted on the way in and out. The conversions may be functions of any kind; the
fields of a mapping name theirs. A variant holds one mapping per shape that a record takes between
generations of firmware.
-/

namespace RouterApi

/-- A record: the values of its fields by name. -/
abbrev Record := Assoc Text Value

/-- The attributes that a record is built from, by key. Those of a sentence are texts. -/
abbrev Attributes := Assoc Text Value

/-- The attributes of a sentence. -/
def Attributes.ofSentence (sentence : Sentence) : Attributes :=
  sentence.attributes.map fun (key, content) => (key, .text content)

/-- How a field of a record corresponds to an attribute. -/
structure Field where
  name : Text
  attributeName : Text
  parse : Converter := .display
  format : Converter := .display
  deriving DecidableEq, Repr

namespace Field

/-- The attribute that a field corresponds to unless stated otherwise: its name with dashes in place
of underscores. -/
def defaultAttribute (name : Text) : Text :=
  name.map fun point =>
    if point == CodePoint.ofChar '_' then CodePoint.ofChar '-' else point

/-- A field as shown to a developer. -/
def inspect (field : Field) : Text :=
  literal "Field(" ++ field.name.quoted ++ literal ", " ++ field.attributeName.quoted ++ literal ")"

end Field

/-- A field of a record tied to an attribute by functions of any kind: one reads the value of the
attribute, the other gives the value that is written. -/
structure Binding where
  name : Text
  attributeName : Text
  parse : Value → Except Error Value
  format : Value → Except Error Value

namespace Binding

/-- Add the fields whose attributes are present to a record. -/
def decodeOnto (attributes : Attributes) (record : Record) :
    List Binding → Except Error Record
  | [] => .ok record
  | binding :: rest =>
      match Assoc.get? binding.attributeName attributes with
      | none => decodeOnto attributes record rest
      | some written =>
          match binding.parse written with
          | .error error => .error error
          | .ok value => decodeOnto attributes (record.set binding.name value) rest

/-- Build a record from attributes; fields whose attributes are absent are left out. -/
def decode (bindings : List Binding) (attributes : Attributes) : Except Error Record :=
  decodeOnto attributes [] bindings

/-- The attribute words of a record, leaving out the skipped fields and those without a value. -/
def encode (record : Record) (skip : List Text) : List Binding → Except Error (List Text)
  | [] => .ok []
  | binding :: rest =>
      if skip.contains binding.name then encode record skip rest
      else
        match Assoc.get? binding.name record with
        | none | some .null => encode record skip rest
        | some value =>
            match binding.format value with
            | .error error => .error error
            | .ok formatted =>
                if formatted.isWritable then
                  (encode record skip rest).map
                    (Word.ofAttribute binding.attributeName formatted :: ·)
                else .error .unwritable

end Binding

/-- The functions by which a field is converted. -/
def Field.binding (field : Field) : Binding where
  name := field.name
  attributeName := field.attributeName
  parse := field.parse.apply
  format := field.format.apply

/-- The description of a type of record. -/
structure Mapping where
  fields : List Field
  deriving DecidableEq, Repr

namespace Mapping

/-- The bindings of the fields, in order. -/
def bindings (mapping : Mapping) : List Binding :=
  mapping.fields.map Field.binding

/-- Build a record from attributes. -/
def decode (mapping : Mapping) (attributes : Attributes) : Except Error Record :=
  Binding.decode mapping.bindings attributes

/-- Build a record from each sentence. -/
def decodeEach (mapping : Mapping) : List Sentence → Except Error (List Record)
  | [] => .ok []
  | sentence :: rest =>
      match mapping.decode (.ofSentence sentence) with
      | .error error => .error error
      | .ok record =>
          match decodeEach mapping rest with
          | .error error => .error error
          | .ok records => .ok (record :: records)

/-- Build a record from each data sentence of a reply. -/
def decodeAll (mapping : Mapping) (reply : Reply) : Except Error (List Record) :=
  mapping.decodeEach reply.data

/-- Build a record from the first data sentence of a reply. -/
def decodeFirst (mapping : Mapping) (reply : Reply) : Except Error Record :=
  match reply.data with
  | [] => .error .notFound
  | first :: _ => mapping.decode (.ofSentence first)

/-- The attribute words of a record. -/
def encode (mapping : Mapping) (record : Record) (skip : List Text) : Except Error (List Text) :=
  Binding.encode record skip mapping.bindings

/-- The word that restricts a print command to the attributes of a mapping. -/
def propertyList (mapping : Mapping) : Text :=
  Word.ofAttribute (literal ".proplist")
    (.text (Text.join (literal ",") (mapping.fields.map Field.attributeName)))

end Mapping

/-- One mapping per selector, such as a firmware generation. -/
structure Variant where
  mappings : List (Value × Mapping)
  deriving DecidableEq

namespace Variant

/-- The mapping of a selector: of several with the same one, the last. -/
def mapping (variant : Variant) (selector : Value) : Except Error Mapping :=
  match variant.mappings.reverse.find? fun entry => entry.1.sameKey selector with
  | some (_, mapping) => .ok mapping
  | none => .error (.noMapping selector)

/-- Build a record with the mapping of a selector. -/
def decode (variant : Variant) (selector : Value) (attributes : Attributes) :
    Except Error Record :=
  match variant.mapping selector with
  | .error error => .error error
  | .ok mapping => mapping.decode attributes

/-- The attribute words of a record with the mapping of a selector. -/
def encode (variant : Variant) (selector : Value) (record : Record) (skip : List Text) :
    Except Error (List Text) :=
  match variant.mapping selector with
  | .error error => .error error
  | .ok mapping => mapping.encode record skip

end Variant
end RouterApi
