import Dispatch.Envelope
import Dispatch.Proofs.Text.ByteOrder

/-!
# What is in an envelope

A table is what it has under each name (`Table.ext`), so an envelope can be told name by name.
Under a name stands what the sender gave, converted, and only where he gave nothing the standard
value (`Envelope.get?_given`, `Table.get?_foldl_insertIfNew`). The two FIFO names are left out on
the way, whatever the destination; where it asks for them, their texts travel beside the attributes.

## Main definitions

* `Attribute.Converts`: the attribute that stands for a value.
* `Attributes.Unset`, `Attributes.Unusable`, `Attributes.Gives`: what a sender gave under a name.
* `Envelope.Carries`: all that an envelope for a message holds.

## Main statements

* `Envelope.Carries.unique`: this leaves nothing open.
* `Envelope.pack_eq_ok_iff`: a message is put into the envelope that carries it.
* `Envelope.packs_exactly`: when that is possible, and what does not depend on the destination.
-/
namespace Dispatch

/-- Of several values for a name the one in the table counts, then the first of the list. -/
theorem Table.get?_foldl_insertIfNew {α : Type} (entries : Fields α) (t : Table α) (name : String) :
    (entries.foldl (fun t entry => t.insertIfNew entry.1 entry.2) t).get? name =
      (t.get? name).or (entries.get? name) := by
  induction entries generalizing t with
  | nil => simp
  | cons entry rest ih =>
    obtain ⟨k, v⟩ := entry
    rw [List.foldl_cons, ih, get?_insertIfNew, Option.or_assoc, Fields.get?_cons]
    by_cases same : k = name <;> simp [same]

/-! ## Values -/

/-- The attribute that stands for a value: a number keeps its text, a string is taken as it is, and
any other value but null is written as JSON. -/
inductive Attribute.Converts : Json → Attribute → Prop
  | number (n : Json.Number) : Converts (.number n) (.number n.text)
  | string (s : String) : Converts (.string s) (.string s)
  | other {value : Json} (not_null : value ≠ .null) (not_number : ∀ n, value ≠ .number n)
      (not_string : ∀ s, value ≠ .string s) : Converts value (.string value.text)

theorem Attribute.ofJson?_eq_some_iff {value : Json} {typed : Attribute} :
    ofJson? value = some typed ↔ Converts value typed := by
  constructor
  · intro h
    cases value with
    | null => cases h
    | number n =>
      cases h
      exact .number n
    | string s =>
      cases h
      exact .string s
    | bool | array | object =>
      cases h
      exact .other (by simp) (by simp) (by simp)
  · intro h
    cases h with
    | number n => rfl
    | string s => rfl
    | other not_null not_number not_string =>
      cases value with
      | null => exact absurd rfl not_null
      | number n => exact absurd rfl (not_number n)
      | string s => exact absurd rfl (not_string s)
      | bool | array | object => rfl

/-- A value stands for one attribute. -/
theorem Attribute.Converts.unique {value : Json} {typed typed' : Attribute}
    (h : Converts value typed) (h' : Converts value typed') : typed = typed' :=
  Option.some.inj ((ofJson?_eq_some_iff.2 h).symm.trans (ofJson?_eq_some_iff.2 h'))

theorem Attribute.ofJson?_eq_none_iff {value : Json} : ofJson? value = none ↔ value = .null := by
  cases value <;> simp [ofJson?]

namespace Attributes

/-- The sender gave nothing under a name, or null. -/
def Unset (attributes : Attributes) (name : String) : Prop :=
  ∀ value, attributes.get? name = some value → value = .null

/-- The ways in which a text cannot be taken from a name. -/
inductive Unusable (attributes : Attributes) (name : String) : Prop
  | absent (absent : attributes.get? name = none)
  | null (null : attributes.get? name = some .null)
  | blank {value : Json} {typed : Attribute} (held : attributes.get? name = some value)
      (converts : Attribute.Converts value typed) (blank : typed.text = "")

/-- The sender gave a text under a name, and it is not empty. -/
def Gives (attributes : Attributes) (name text : String) : Prop :=
  text ≠ "" ∧ ∃ value typed, attributes.get? name = some value ∧ Attribute.Converts value typed ∧
    typed.text = text

theorem bind_ofJson?_eq_none_iff {attributes : Attributes} {name : String} :
    (attributes.get? name).bind Attribute.ofJson? = none ↔ attributes.Unset name := by
  simp [Unset, Option.bind_eq_none_iff, Attribute.ofJson?_eq_none_iff]

theorem fifoField?_eq_some_iff {attributes : Attributes} {name text : String} :
    Envelope.fifoField? attributes name = some text ↔ attributes.Gives name text := by
  simp only [Envelope.fifoField?, Gives, Option.filter_eq_some_iff, Option.map_eq_some_iff,
    Option.bind_eq_some_iff, Attribute.ofJson?_eq_some_iff, decide_eq_true_eq]
  constructor
  · rintro ⟨⟨typed, ⟨value, held, converts⟩, rfl⟩, some⟩
    exact ⟨some, value, typed, held, converts, rfl⟩
  · rintro ⟨some, value, typed, held, converts, rfl⟩
    exact ⟨⟨typed, ⟨value, held, converts⟩, rfl⟩, some⟩

/-- The sender gave one text under a name. -/
theorem Gives.unique {attributes : Attributes} {name text text' : String}
    (h : attributes.Gives name text) (h' : attributes.Gives name text') : text = text' :=
  Option.some.inj ((fifoField?_eq_some_iff.2 h).symm.trans (fifoField?_eq_some_iff.2 h'))

theorem fifoField?_eq_none_iff {attributes : Attributes} {name : String} :
    Envelope.fifoField? attributes name = none ↔ attributes.Unusable name := by
  rw [Option.eq_none_iff_forall_ne_some]
  simp only [ne_eq, fifoField?_eq_some_iff]
  constructor
  · intro unusable
    cases held : attributes.get? name with
    | none => exact .absent held
    | some value =>
      cases converts : Attribute.ofJson? value with
      | none => exact .null (Attribute.ofJson?_eq_none_iff.1 converts ▸ held)
      | some typed =>
        have converts := Attribute.ofJson?_eq_some_iff.1 converts
        by_cases blank : typed.text = ""
        · exact .blank held converts blank
        · exact absurd ⟨blank, value, typed, held, converts, rfl⟩ (unusable typed.text)
  · rintro unusable text ⟨some, value, typed, held, converts, rfl⟩
    have converted := Attribute.ofJson?_eq_some_iff.2 converts
    cases unusable with
    | absent absent => simp [absent] at held
    | null null =>
      cases held.symm.trans null
      cases converted
    | @blank value' typed' held' converts' blank =>
      cases held.symm.trans held'
      cases converted.symm.trans (Attribute.ofJson?_eq_some_iff.2 converts')
      exact some blank

end Attributes

namespace Envelope

/-- A destination is FIFO when its name ends so. -/
theorem isFifo_iff {destination : String} :
    isFifo destination = true ↔ ∃ front, destination = front ++ "fifo" := by
  rw [isFifo, List.isSuffixOf_iff_suffix]
  constructor
  · rintro ⟨front, whole⟩
    refine ⟨String.ofList front, String.toList_injective ?_⟩
    rw [String.toList_append, String.toList_ofList, ← whole]
    rfl
  · rintro ⟨front, rfl⟩
    rw [String.toList_append]
    exact List.suffix_append _ _

/-- What the sender gave, converted, under the names that are not FIFO names. -/
theorem get?_given (attributes : Attributes) (name : String) :
    (given attributes).get? name =
      if AttributeName.isFifo name then none
      else (attributes.get? name).bind Attribute.ofJson? := by
  rw [given, Table.get?_filterMap]
  split
  · exact Option.bind_fun_none _
  · rfl

/-- The names that every envelope has attributes for. -/
def standardNames : List String :=
  [AttributeName.id, AttributeName.timestamp, AttributeName.contentType,
    AttributeName.mimeContentType, AttributeName.contentLength]

/-- All that an envelope for a message holds. The body is the text of the payload. Attributes are
under the names that the sender gave a value but for the two FIFO names, and under the five standard
names; what the sender gave is converted, and the standard values are for the other names. The two
FIFO texts are the sender's if the destination ends in `fifo`, and are missing else. -/
structure Carries (destination : String) (message : Message) (stamp : Stamp) (envelope : Envelope) :
    Prop where
  body : envelope.body = message.payload.text
  names : ∀ name, name ∈ envelope.attributes.names ↔
    (name ≠ AttributeName.deduplicationId ∧ name ≠ AttributeName.groupId ∧
      ¬message.attributes.Unset name) ∨ name ∈ standardNames
  converted : ∀ name value, name ∈ envelope.attributes.names →
    message.attributes.get? name = some value → value ≠ .null →
    ∃ typed, Attribute.Converts value typed ∧ envelope.attributes.get? name = some typed
  standard : ∀ name typed, (name, typed) ∈
      [(AttributeName.id, .string stamp.id.text),
        (AttributeName.timestamp, .number (toString stamp.time.value)),
        (AttributeName.contentType, .string "application/json"),
        (AttributeName.mimeContentType, .string "application/json"),
        (AttributeName.contentLength, .number (toString (Text.utf8 envelope.body).length))] →
    message.attributes.Unset name → envelope.attributes.get? name = some typed
  fifo : (∃ front, destination = front ++ "fifo") → ∃ deduplicationId groupId,
    message.attributes.Gives AttributeName.deduplicationId deduplicationId ∧
    message.attributes.Gives AttributeName.groupId groupId ∧
    envelope.deduplicationId = some deduplicationId ∧ envelope.groupId = some groupId
  plain : (¬∃ front, destination = front ++ "fifo") →
    envelope.deduplicationId = none ∧ envelope.groupId = none

variable {destination : String} {message : Message} {stamp : Stamp}

/-- The attributes that `pack` makes. -/
def attributesOf (message : Message) (stamp : Stamp) : Table Attribute :=
  (standard message.payload.text stamp).foldl (fun t entry => t.insertIfNew entry.1 entry.2)
    (given message.attributes)

theorem get?_attributesOf (name : String) :
    (attributesOf message stamp).get? name =
      (if AttributeName.isFifo name then none
        else (message.attributes.get? name).bind Attribute.ofJson?).or
      (Fields.get? (standard message.payload.text stamp) name) := by
  rw [attributesOf, Table.get?_foldl_insertIfNew, get?_given]

/-- The standard attributes, written out. -/
theorem standard_eq (body : String) (stamp : Stamp) :
    standard body stamp =
      [(AttributeName.id, .string stamp.id.text),
        (AttributeName.timestamp, .number (toString stamp.time.value)),
        (AttributeName.contentType, .string "application/json"),
        (AttributeName.mimeContentType, .string "application/json"),
        (AttributeName.contentLength, .number (toString (Text.utf8 body).length))] := by
  rw [standard, UnixMillis.text, integerText_eq, Text.length_utf8]
  rfl

theorem isFifo_name_iff {name : String} : AttributeName.isFifo name = true ↔
    name = AttributeName.deduplicationId ∨ name = AttributeName.groupId := by
  simp [AttributeName.isFifo]

theorem get?_standard_eq_none_iff {body name : String} :
    Fields.get? (standard body stamp) name = none ↔ name ∉ standardNames :=
  Fields.get?_eq_none_iff

/-- None of the standard names is a FIFO name. -/
theorem isFifo_of_standard : ∀ name ∈ standardNames, AttributeName.isFifo name = false := by decide

theorem mem_names_attributesOf (name : String) :
    name ∈ (attributesOf message stamp).names ↔
      (name ≠ AttributeName.deduplicationId ∧ name ≠ AttributeName.groupId ∧
        ¬message.attributes.Unset name) ∨ name ∈ standardNames := by
  rw [← not_iff_not, ← Table.get?_eq_none_iff, get?_attributesOf, Option.or_eq_none_iff,
    get?_standard_eq_none_iff, not_or, ← Attributes.bind_ofJson?_eq_none_iff]
  refine and_congr_left fun _ => ?_
  by_cases fifo : AttributeName.isFifo name
  · have named := isFifo_name_iff.1 fifo
    simp only [fifo, if_true]
    tauto
  · have named := mt isFifo_name_iff.2 fifo
    simp only [fifo]
    tauto

/-- What the sender gave has precedence. -/
theorem converted_attributesOf {name : String} {value : Json}
    (listed : name ∈ (attributesOf message stamp).names)
    (held : message.attributes.get? name = some value) (some : value ≠ .null) :
    ∃ typed, Attribute.Converts value typed ∧
      (attributesOf message stamp).get? name = .some typed := by
  have other : AttributeName.isFifo name = false := by
    rcases (mem_names_attributesOf name).1 listed with ⟨apart, apart', -⟩ | standard
    · simp [AttributeName.isFifo, apart, apart']
    · exact isFifo_of_standard name standard
  obtain ⟨typed, converts⟩ :=
    Option.ne_none_iff_exists'.1 (mt Attribute.ofJson?_eq_none_iff.1 some)
  refine ⟨typed, Attribute.ofJson?_eq_some_iff.1 converts, ?_⟩
  rw [get?_attributesOf, other, held]
  simp [converts]

theorem standard_attributesOf {name : String} {typed : Attribute}
    (among : (name, typed) ∈ standard message.payload.text stamp)
    (unset : message.attributes.Unset name) :
    (attributesOf message stamp).get? name = some typed := by
  have once : (Fields.names (standard message.payload.text stamp)).Nodup :=
    show standardNames.Nodup by decide
  have listed : name ∈ standardNames := List.mem_map_of_mem (f := Prod.fst) among
  rw [get?_attributesOf, isFifo_of_standard name listed,
    Attributes.bind_ofJson?_eq_none_iff.2 unset]
  simpa using (Fields.mem_iff_get? once).1 among

/-- The same attributes and the same body for every destination. -/
theorem pack_eq (destination : String) (message : Message) (stamp : Stamp) :
    pack destination message stamp =
      if isFifo destination then
        match fifoField? message.attributes AttributeName.deduplicationId,
            fifoField? message.attributes AttributeName.groupId with
        | some deduplicationId, some groupId => .ok
          ⟨message.payload.text, attributesOf message stamp, some deduplicationId, some groupId⟩
        | _, _ => .error (.invalid (.fifoFieldsMissing destination))
      else .ok ⟨message.payload.text, attributesOf message stamp, none, none⟩ := rfl

theorem parts_of_pack {envelope : Envelope}
    (packed : pack destination message stamp = .ok envelope) :
    envelope.attributes = attributesOf message stamp ∧ envelope.body = message.payload.text := by
  rw [pack_eq] at packed
  split at packed
  · split at packed <;> cases packed
    exact ⟨rfl, rfl⟩
  · cases packed
    exact ⟨rfl, rfl⟩

/-- Packed attributes are those that an envelope for the message has, whatever its FIFO texts. -/
theorem carries_of_fifo {deduplicationId groupId : Option String}
    (fifo : (∃ front, destination = front ++ "fifo") → ∃ a b,
      message.attributes.Gives AttributeName.deduplicationId a ∧
      message.attributes.Gives AttributeName.groupId b ∧
      deduplicationId = some a ∧ groupId = some b)
    (plain : (¬∃ front, destination = front ++ "fifo") → deduplicationId = none ∧ groupId = none) :
    Carries destination message stamp
      ⟨message.payload.text, attributesOf message stamp, deduplicationId, groupId⟩ where
  body := rfl
  names := mem_names_attributesOf
  converted _ _ := converted_attributesOf
  standard name typed := by
    rw [← standard_eq]
    exact standard_attributesOf
  fifo := fifo
  plain := plain

theorem carries_of_pack {envelope : Envelope}
    (packed : pack destination message stamp = .ok envelope) :
    Carries destination message stamp envelope := by
  rw [pack_eq] at packed
  split at packed
  · next ends =>
    have ends := isFifo_iff.1 ends
    split at packed
    · next a b first second =>
      cases packed
      refine carries_of_fifo (fun _ => ?_) fun plain => absurd ends plain
      exact ⟨a, b, Attributes.fifoField?_eq_some_iff.1 first,
        Attributes.fifoField?_eq_some_iff.1 second, rfl, rfl⟩
    · cases packed
  · next ends =>
    cases packed
    exact carries_of_fifo (fun fifo => absurd (isFifo_iff.2 fifo) ends) fun _ => ⟨rfl, rfl⟩

/-- **What an envelope carries leaves nothing open.** -/
theorem Carries.unique {envelope envelope' : Envelope}
    (h : Carries destination message stamp envelope)
    (h' : Carries destination message stamp envelope') : envelope = envelope' := by
  have body : envelope.body = envelope'.body := h.body.trans h'.body.symm
  have attributes : envelope.attributes = envelope'.attributes := by
    ext1 name
    by_cases listed : name ∈ envelope.attributes.names
    · have listed' := (h'.names name).2 ((h.names name).1 listed)
      by_cases unset : message.attributes.Unset name
      · have named : name ∈ (Envelope.standard envelope.body stamp).map Prod.fst :=
          ((h.names name).1 listed).resolve_left fun given => given.2.2 unset
        obtain ⟨⟨_, typed⟩, among, rfl⟩ := List.mem_map.1 named
        have among' := body ▸ among
        rw [standard_eq] at among among'
        rw [h.standard _ typed among unset, h'.standard _ typed among' unset]
      · obtain ⟨value, held, some⟩ :
            ∃ value, message.attributes.get? name = some value ∧ value ≠ .null := by
          simpa [Attributes.Unset] using unset
        obtain ⟨typed, converts, first⟩ := h.converted name value listed held some
        obtain ⟨typed', converts', second⟩ := h'.converted name value listed' held some
        rw [first, second, converts.unique converts']
    · have unlisted : name ∉ envelope'.attributes.names :=
        fun listed' => listed ((h.names name).2 ((h'.names name).1 listed'))
      rw [Table.get?_eq_none_iff.2 listed, Table.get?_eq_none_iff.2 unlisted]
  have texts : envelope.deduplicationId = envelope'.deduplicationId ∧
      envelope.groupId = envelope'.groupId := by
    by_cases ends : ∃ front, destination = front ++ "fifo"
    · obtain ⟨a, b, given, other, first, second⟩ := h.fifo ends
      obtain ⟨a', b', given', other', first', second'⟩ := h'.fifo ends
      rw [first, second, first', second', given.unique given', other.unique other']
      exact ⟨rfl, rfl⟩
    · rw [(h.plain ends).1, (h.plain ends).2, (h'.plain ends).1, (h'.plain ends).2]
      exact ⟨rfl, rfl⟩
  cases envelope
  cases envelope'
  exact (mk.injEq ..).mpr ⟨body, attributes, texts.1, texts.2⟩

/-- Packing fails for a FIFO destination without its two texts, and only then. -/
theorem pack_eq_error_iff {e : Error} :
    pack destination message stamp = .error e ↔
      ((∃ front, destination = front ++ "fifo") ∧
        (message.attributes.Unusable AttributeName.deduplicationId ∨
          message.attributes.Unusable AttributeName.groupId)) ∧
      e = .invalid (.fifoFieldsMissing destination) := by
  rw [← Attributes.fifoField?_eq_none_iff, ← Attributes.fifoField?_eq_none_iff, ← isFifo_iff,
    pack_eq]
  by_cases ends : isFifo destination
  · cases first : fifoField? message.attributes AttributeName.deduplicationId <;>
      cases second : fifoField? message.attributes AttributeName.groupId <;>
      simp [ends, eq_comm]
  · simp [ends]

/-- **A message is put into the envelope that carries it**, and into no other one. -/
theorem pack_eq_ok_iff {envelope : Envelope} :
    pack destination message stamp = .ok envelope ↔
      Carries destination message stamp envelope := by
  constructor
  · exact carries_of_pack
  · intro carries
    cases packed : pack destination message stamp with
    | ok packed_envelope =>
      rw [(carries_of_pack packed).unique carries]
    | error e =>
      -- an envelope that carries the message has both texts
      obtain ⟨⟨ends, unusable⟩, -⟩ := pack_eq_error_iff.1 packed
      obtain ⟨a, b, given, other, -, -⟩ := carries.fifo ends
      rw [← Attributes.fifoField?_eq_none_iff, ← Attributes.fifoField?_eq_none_iff,
        Attributes.fifoField?_eq_some_iff.2 given, Attributes.fifoField?_eq_some_iff.2 other]
        at unusable
      rcases unusable with none | none <;> cases none

/-- **Packing, exactly.** It fails when the destination is FIFO and one of the two FIFO texts is
absent, null or empty, and then as a message that is not valid; else it gives the one envelope that
carries the message. The FIFO names are never among the attributes, and neither the attributes nor
the body depend on the destination. -/
theorem packs_exactly (destination : String) (message : Message) (stamp : Stamp) :
    (∀ e, pack destination message stamp = .error e ↔
      ((∃ front, destination = front ++ "fifo") ∧
        (message.attributes.Unusable AttributeName.deduplicationId ∨
          message.attributes.Unusable AttributeName.groupId)) ∧
      e = .invalid (.fifoFieldsMissing destination)) ∧
    (∀ envelope, pack destination message stamp = .ok envelope ↔
      Carries destination message stamp envelope) ∧
    ∀ envelope, pack destination message stamp = .ok envelope →
      AttributeName.deduplicationId ∉ envelope.attributes.names ∧
      AttributeName.groupId ∉ envelope.attributes.names ∧
      ∀ destination' envelope', pack destination' message stamp = .ok envelope' →
        envelope'.attributes = envelope.attributes ∧ envelope'.body = envelope.body := by
  refine ⟨fun e => pack_eq_error_iff, fun envelope => pack_eq_ok_iff, ?_⟩
  intro envelope packed
  obtain ⟨attributes, body⟩ := parts_of_pack packed
  have never (name : String) (fifo : AttributeName.isFifo name = true) :
      name ∉ envelope.attributes.names := by
    rw [attributes, mem_names_attributesOf]
    rintro (⟨apart, apart', -⟩ | standard)
    · exact (isFifo_name_iff.1 fifo).elim apart apart'
    · exact Bool.false_ne_true ((isFifo_of_standard name standard).symm.trans fifo)
  refine ⟨never _ (by decide), never _ (by decide), fun destination' envelope' packed' => ?_⟩
  obtain ⟨attributes', body'⟩ := parts_of_pack packed'
  exact ⟨attributes'.trans attributes.symm, body'.trans body.symm⟩

/-- A message with a null in place of a standard attribute, a content type of its own, and the two
FIFO texts, one of them a number. -/
def fifoOrder : Message :=
  ⟨.string "é", Table.ofList [("message-group-id", .number (.integer 7)), ("timestamp", .null),
    ("contentType", .string "text/plain"), ("message-deduplication-id", .string "a")]⟩

/-- The null counts as absent, the own content type is kept, and the body has four bytes. -/
theorem fifo_order_packed :
    let envelope : Envelope :=
      ⟨"\"é\"", attributesOf fifoOrder default, some "a", some "7"⟩
    Carries "orders.fifo" fifoOrder default envelope ∧
      envelope.attributes.names =
        ["Content-Length", "Content-Type", "contentType", "id", "timestamp"] ∧
      envelope.attributes.get? "contentType" = some (.string "text/plain") ∧
      envelope.attributes.get? "Content-Length" = some (.number "4") := by
  intro envelope
  have packed : pack "orders.fifo" fifoOrder default = .ok envelope := by rfl
  exact ⟨((packs_exactly "orders.fifo" fifoOrder default).2.1 envelope).1 packed,
    by decide +kernel, by decide +kernel, by decide +kernel⟩

end Envelope

end Dispatch
