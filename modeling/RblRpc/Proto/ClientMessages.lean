import RblRpc.Proto.WireFormat

/-!
# `ClientRequest` and `ClientResponse` on a stream

The two messages that travel in frames.  `ClientMessageCodec` stands for their generated code:
`ParseFromArray` of a request, `SerializeToCodedStream` of both (`ByteSize` is the number of bytes
it writes), and the field assignments `ParseFromCodedStream` makes while it reads a response.

* `ClientMessageCodec.Lawful` — a serialised response at the front of a stream is read as its own
  fields, and the reader goes on with what follows.
* `parseFromCodedStream_append` — what the bytes behind a response do to it.
* `clientMessageCodec_lawful` — the wire format is lawful.
-/

namespace RblRpc

/-- A field of `ClientResponse` that the stream parser sets. -/
inductive ResponseAssignment where
  | responseString (b : Bytes)
  | error (e : ClientResponseErrorType)
  deriving DecidableEq

namespace ResponseAssignment

/-- A later occurrence of a field overrides an earlier one. -/
def apply (r : ClientResponse) : ResponseAssignment → ClientResponse
  | .responseString b => { r with responseString := some b }
  | .error e => { r with error := some e }

def string? : ResponseAssignment → Option Bytes
  | .responseString b => some b
  | .error _ => none

def error? : ResponseAssignment → Option ClientResponseErrorType
  | .responseString _ => none
  | .error e => some e

end ResponseAssignment

/-- The assignments that rebuild a response. -/
def ClientResponse.assignments (r : ClientResponse) : List ResponseAssignment :=
  (r.responseString.map .responseString).toList ++ (r.error.map .error).toList

/-- The generated code of the two messages. -/
structure ClientMessageCodec where
  parseRequest : Bytes → Bool × ClientRequest
  serializeRequest : ClientRequest → Bytes
  serializeResponse : ClientResponse → Bytes
  assignments : Bytes → List ResponseAssignment

namespace ClientMessageCodec

variable (codec : ClientMessageCodec)

/-- `ParseFromCodedStream`: clears the message, then sets what the stream holds. -/
def parseFromCodedStream (bs : Bytes) : ClientResponse :=
  (codec.assignments bs).foldl ResponseAssignment.apply {}

/-- What protobuf documents of a concatenation. -/
structure Lawful : Prop where
  assignments_append : ∀ r rest,
    codec.assignments (codec.serializeResponse r ++ rest) = r.assignments ++ codec.assignments rest

end ClientMessageCodec

/-- Assignments that leave `r` as it is: the last one of each field sets the value `r` has. -/
def KeepsResponse (r : ClientResponse) (as : List ResponseAssignment) : Prop :=
  (∀ b, (as.filterMap ResponseAssignment.string?).getLast? = some b → r.responseString = some b) ∧
  (∀ e, (as.filterMap ResponseAssignment.error?).getLast? = some e → r.error = some e)

theorem foldl_apply (as : List ResponseAssignment) (r : ClientResponse) :
    as.foldl ResponseAssignment.apply r =
      ⟨((as.filterMap ResponseAssignment.string?).getLast?).or r.responseString,
       ((as.filterMap ResponseAssignment.error?).getLast?).or r.error⟩ := by
  induction as generalizing r with
  | nil => rfl
  | cons a as ih =>
    rw [List.foldl_cons, ih]
    cases a with
    | responseString b =>
      simp only [ResponseAssignment.apply, List.filterMap_cons, ResponseAssignment.string?,
        ResponseAssignment.error?, List.getLast?_cons]
      cases (as.filterMap ResponseAssignment.string?).getLast? <;> rfl
    | error e =>
      simp only [ResponseAssignment.apply, List.filterMap_cons, ResponseAssignment.string?,
        ResponseAssignment.error?, List.getLast?_cons]
      cases (as.filterMap ResponseAssignment.error?).getLast? <;> rfl

theorem or_eq_right_iff {α : Type} (x y : Option α) :
    x.or y = y ↔ ∀ a, x = some a → y = some a := by
  cases x with
  | none => simp
  | some a => simp [eq_comm]

/-- **Assignments keep a response exactly when the last ones agree with it.** -/
theorem foldl_apply_eq_self (as : List ResponseAssignment) (r : ClientResponse) :
    as.foldl ResponseAssignment.apply r = r ↔ KeepsResponse r as := by
  rw [foldl_apply, KeepsResponse, ← or_eq_right_iff, ← or_eq_right_iff]
  cases r
  simp

instance (r : ClientResponse) (as : List ResponseAssignment) : Decidable (KeepsResponse r as) :=
  decidable_of_iff _ (foldl_apply_eq_self as r)

theorem foldl_assignments (r : ClientResponse) :
    r.assignments.foldl ResponseAssignment.apply {} = r := by
  obtain ⟨s, e⟩ := r
  cases s <;> cases e <;> rfl

/-- **A response with bytes behind it is read as those bytes leave it.** -/
theorem parseFromCodedStream_append {codec : ClientMessageCodec} (h : codec.Lawful)
    (r : ClientResponse) (rest : Bytes) :
    codec.parseFromCodedStream (codec.serializeResponse r ++ rest) = r ↔
      KeepsResponse r (codec.assignments rest) := by
  rw [ClientMessageCodec.parseFromCodedStream, h.assignments_append, List.foldl_append,
    foldl_assignments, foldl_apply_eq_self]

/-! ## The wire format -/

open Wire

def clientRequestFormat : Format ClientRequest where
  empty := {}
  fields m :=
    [(1, .varint m.serviceOrdinal.toNat), (2, .varint m.requestOrdinal.toNat),
     (3, .bytes m.requestString)]
  merge m
    | (1, .varint n) => { m with serviceOrdinal := UInt32.ofNat n }
    | (2, .varint n) => { m with requestOrdinal := UInt32.ofNat n }
    | (3, .bytes b) => { m with requestString := b }
    | _ => m
  initialized ps := hasVarint 1 ps && hasVarint 2 ps && hasBytes 3 ps

/-- The assignment a pair makes; unknown fields, wrong types and unknown enum values make none. -/
def assignment? : Pair → Option ResponseAssignment
  | (1, .bytes b) => some (.responseString b)
  | (2, .varint n) => (clientResponseErrorTypes[n]?).map .error
  | _ => none

/-- The codec of the wire format. -/
def clientMessageCodec : ClientMessageCodec where
  parseRequest := clientRequestFormat.parse
  serializeRequest m := encode (clientRequestFormat.fields m)
  serializeResponse m := encode (clientResponseFormat.fields m)
  assignments bs := (pairs bs).filterMap assignment?

theorem clientMessageCodec_lawful : clientMessageCodec.Lawful where
  assignments_append r rest := by
    simp only [clientMessageCodec, pairs_encode_append (clientResponseFormat_lawful.encodable r),
      List.filterMap_append]
    congr 1
    obtain ⟨s, e⟩ := r
    cases s <;> rcases e with _ | e <;> [rfl; (cases e <;> rfl); rfl; (cases e <;> rfl)]

end RblRpc
