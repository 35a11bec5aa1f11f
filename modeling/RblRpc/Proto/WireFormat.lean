import RblRpc.Proto.BasicProtocol
import RblRpc.Lib.Wire

/-!
# The messages on the wire

The tag/value formats of the messages of `BasicProtocol.proto`, with the field numbers and enum
values of the file, as instances of `Wire.Format`.

* `codecOf_lawful` — a lawful format whose fields set what is required gives a lawful codec.
* `basicProtocolCodec_lawful` — the concrete codec behaves as documented.
-/

namespace RblRpc

open Wire

/-- The codec of a format: `SerializeToString` omits unset required fields. -/
def codecOf {M : Type} (F : Format M) : MessageCodec M :=
  ⟨fun m => some (encode (F.fields m)), F.parse⟩

/-- A lawful format whose fields set what `initialized` asks for gives a lawful codec. -/
theorem codecOf_lawful {M : Type} {F : Format M} (h : F.Lawful) {initialized : M → Bool}
    (hi : ∀ m, F.initialized (F.fields m) = initialized m) :
    (codecOf F).Lawful initialized where
  roundTrip m hm := ⟨_, rfl, by rw [← hm, ← hi m]; exact Format.parse_encode h m⟩
  unset m hm := .inr ⟨_, rfl, by rw [← hm, ← hi m]; exact Format.parse_encode h m⟩

/-! ## Enum values -/

/-- Merge an enum value; an unknown one is skipped. -/
def mergeEnum {α : Type} (values : List α) (n : ℕ) (old : Option α) : Option α :=
  (values[n]?).or old

def sourceConnectionTypes : List SourceConnectionType := [.sourceGenerator, .sourceRelay]
def destinationConnectionTypes : List DestinationConnectionType := [.targetRelay, .targetMarshall]

def clientResponseErrorTypes : List ClientResponseErrorType :=
  [.requestSuccess, .requestBackendNotAcceptingRequests, .requestClientNotEstablished,
   .requestNoServiceWithOrdinal, .requestNoFunctionWithOrdinal, .requestNotSubscribed,
   .requestStringParseError, .requestStringSerializeError]

def helloErrorTypes : List HelloErrorType :=
  [.noHelloErrors, .destinationExpectationMismatch, .sourceExpectationMismatch,
   .clientAllreadyEstablished]

def serviceSubscribeErrorTypes : List ServiceSubscribeErrorType :=
  [.noSubscribeServiceError, .serviceOrdinalNotInUse, .serviceAllreadySubscribed,
   .noSubscriptionForService]

def listMethodErrorTypes : List ListMethodErrorType := [.noListMethodError, .noServiceWithOrdinal]

/-- An optional enum field. -/
def enumField {α : Type} [DecidableEq α] (k : ℕ) (values : List α) (x : Option α) : List Pair :=
  x.toList.map fun e => (k, .varint (values.idxOf e))

/-- An optional string field. -/
def stringField (k : ℕ) (x : Option Bytes) : List Pair := x.toList.map fun b => (k, .bytes b)

/-! ## Formats -/

def clientResponseFormat : Format ClientResponse where
  empty := {}
  fields m := stringField 1 m.responseString ++ enumField 2 clientResponseErrorTypes m.error
  merge m
    | (1, .bytes b) => { m with responseString := some b }
    | (2, .varint n) => { m with error := mergeEnum clientResponseErrorTypes n m.error }
    | _ => m
  initialized := hasEnum 2 clientResponseErrorTypes.length

def helloRequestFormat : Format HelloRequest where
  empty := {}
  fields m :=
    [(1, .varint (sourceConnectionTypes.idxOf m.sourceType)),
     (2, .varint (destinationConnectionTypes.idxOf m.expectedTarget)), (3, .bytes m.nodeName)]
  merge m
    | (1, .varint n) =>
      { m with sourceType := (mergeEnum sourceConnectionTypes n none).getD m.sourceType }
    | (2, .varint n) =>
      { m with
        expectedTarget := (mergeEnum destinationConnectionTypes n none).getD m.expectedTarget }
    | (3, .bytes b) => { m with nodeName := b }
    | _ => m
  initialized ps := hasEnum 1 sourceConnectionTypes.length ps &&
    hasEnum 2 destinationConnectionTypes.length ps && hasBytes 3 ps

def helloResponseFormat : Format HelloResponse where
  empty := {}
  fields m := enumField 1 helloErrorTypes m.errorType
  merge m
    | (1, .varint n) => { m with errorType := mergeEnum helloErrorTypes n m.errorType }
    | _ => m
  initialized := hasEnum 1 helloErrorTypes.length

def listServicesRequestFormat : Format ListServicesRequest where
  empty := {}
  fields _ := []
  merge m _ := m
  initialized _ := true

/-- The entries of both lists have the ordinal in field 1 and the name in field 2. -/
def entryPairs (ordinal : UInt32) (name : Bytes) : List Pair :=
  [(1, .varint ordinal.toNat), (2, .bytes name)]

/-- Both fields of an entry are required. -/
def entryInitialized (ps : List Pair) : Bool := hasVarint 1 ps && hasBytes 2 ps

def serviceEntryFormat : Format ServiceEntry where
  empty := ⟨0, []⟩
  fields m := entryPairs m.serviceOrdinal m.serviceName
  merge m
    | (1, .varint n) => { m with serviceOrdinal := UInt32.ofNat n }
    | (2, .bytes b) => { m with serviceName := b }
    | _ => m
  initialized := entryInitialized

def listServicesResponseFormat : Format ListServicesResponse where
  empty := {}
  fields m := m.services.map fun e => (1, .bytes (encode (serviceEntryFormat.fields e)))
  merge m
    | (1, .bytes b) => { m with services := m.services ++ [(serviceEntryFormat.parse b).2] }
    | _ => m
  initialized ps := ps.all fun p =>
    match p with | (1, .bytes b) => (serviceEntryFormat.parse b).1 | _ => true

def subscribeServiceRequestFormat : Format SubscribeServiceRequest where
  empty := {}
  fields m := (1, .varint m.serviceOrdinal.toNat) :: stringField 2 m.subscribeRequestString
  merge m
    | (1, .varint n) => { m with serviceOrdinal := UInt32.ofNat n }
    | (2, .bytes b) => { m with subscribeRequestString := some b }
    | _ => m
  initialized := hasVarint 1

def subscribeServiceResponseFormat : Format SubscribeServiceResponse where
  empty := {}
  fields m :=
    enumField 1 serviceSubscribeErrorTypes m.error ++ stringField 2 m.subscribeResultString
  merge m
    | (1, .varint n) => { m with error := mergeEnum serviceSubscribeErrorTypes n m.error }
    | (2, .bytes b) => { m with subscribeResultString := some b }
    | _ => m
  initialized := hasEnum 1 serviceSubscribeErrorTypes.length

def unsubscribeServiceRequestFormat : Format UnsubscribeServiceRequest where
  empty := {}
  fields m := [(1, .varint m.serviceOrdinal.toNat)]
  merge m
    | (1, .varint n) => { m with serviceOrdinal := UInt32.ofNat n }
    | _ => m
  initialized := hasVarint 1

def unsubscribeServiceResponseFormat : Format UnsubscribeServiceResponse where
  empty := {}
  fields m := enumField 1 serviceSubscribeErrorTypes m.error
  merge m
    | (1, .varint n) => { m with error := mergeEnum serviceSubscribeErrorTypes n m.error }
    | _ => m
  initialized := hasEnum 1 serviceSubscribeErrorTypes.length

def listMethodsRequestFormat : Format ListMethodsRequest where
  empty := {}
  fields m := [(1, .varint m.serviceOrdinal.toNat)]
  merge m
    | (1, .varint n) => { m with serviceOrdinal := UInt32.ofNat n }
    | _ => m
  initialized := hasVarint 1

def methodEntryFormat : Format MethodEntry where
  empty := ⟨0, []⟩
  fields m := entryPairs m.serviceOrdinal m.serviceName
  merge m
    | (1, .varint n) => { m with serviceOrdinal := UInt32.ofNat n }
    | (2, .bytes b) => { m with serviceName := b }
    | _ => m
  initialized := entryInitialized

def listMethodsResponseFormat : Format ListMethodsResponse where
  empty := {}
  fields m := enumField 1 listMethodErrorTypes m.error ++
    m.methods.map fun e => (2, .bytes (encode (methodEntryFormat.fields e)))
  merge m
    | (1, .varint n) => { m with error := mergeEnum listMethodErrorTypes n m.error }
    | (2, .bytes b) => { m with methods := m.methods ++ [(methodEntryFormat.parse b).2] }
    | _ => m
  initialized ps := hasEnum 1 listMethodErrorTypes.length ps && ps.all fun p =>
    match p with | (2, .bytes b) => (methodEntryFormat.parse b).1 | _ => true

/-! ## The formats are lawful -/

theorem stringField_encodable {k : ℕ} (hk : 0 < k) (x : Option Bytes) :
    ∀ p ∈ stringField k x, Wire.Encodable p := by
  cases x <;> simp [stringField, Wire.Encodable, hk]

theorem enumField_encodable {α : Type} [DecidableEq α] {k : ℕ} (hk : 0 < k) (values : List α)
    (x : Option α) : ∀ p ∈ enumField k values x, Wire.Encodable p := by
  cases x <;> simp [enumField, Wire.Encodable, hk]

theorem clientResponseFormat_lawful : clientResponseFormat.Lawful where
  encodable m p hp := by
    rcases List.mem_append.mp hp with hp | hp
    · exact stringField_encodable (by omega) _ p hp
    · exact enumField_encodable (by omega) _ _ p hp
  merge_fields m := by
    obtain ⟨s, e⟩ := m
    cases s <;> rcases e with _ | e <;> [rfl; (cases e <;> rfl); rfl; (cases e <;> rfl)]

theorem helloRequestFormat_lawful : helloRequestFormat.Lawful where
  encodable m := by simp [helloRequestFormat, Wire.Encodable]
  merge_fields m := by
    obtain ⟨s, t, n⟩ := m
    cases s <;> cases t <;> rfl

theorem helloResponseFormat_lawful : helloResponseFormat.Lawful where
  encodable m := enumField_encodable (by omega) _ _
  merge_fields m := by
    obtain ⟨e⟩ := m
    rcases e with _ | e
    · rfl
    · cases e <;> rfl

theorem listServicesRequestFormat_lawful : listServicesRequestFormat.Lawful where
  encodable m p hp := by cases hp
  merge_fields _ := rfl

theorem serviceEntryFormat_lawful : serviceEntryFormat.Lawful where
  encodable m := by simp [serviceEntryFormat, entryPairs, Wire.Encodable]
  merge_fields m := by
    simp [serviceEntryFormat, entryPairs]

theorem methodEntryFormat_lawful : methodEntryFormat.Lawful where
  encodable m := by simp [methodEntryFormat, entryPairs, Wire.Encodable]
  merge_fields m := by
    simp [methodEntryFormat, entryPairs]

theorem foldl_merge_services (es pre : List ServiceEntry) :
    (es.map fun e => ((1, .bytes (encode (serviceEntryFormat.fields e))) : Pair)).foldl
      listServicesResponseFormat.merge ⟨pre⟩ = ⟨pre ++ es⟩ := by
  induction es generalizing pre with
  | nil => simp
  | cons e es ih =>
    have hstep : listServicesResponseFormat.merge ⟨pre⟩
        (1, .bytes (encode (serviceEntryFormat.fields e))) = ⟨pre ++ [e]⟩ := by
      simp only [listServicesResponseFormat, Format.parse_encode serviceEntryFormat_lawful]
    rw [List.map_cons, List.foldl_cons, hstep, ih, List.append_assoc, List.singleton_append]

theorem listServicesResponseFormat_lawful : listServicesResponseFormat.Lawful where
  encodable m p hp := by
    obtain ⟨e, -, rfl⟩ := List.mem_map.mp hp
    exact Nat.one_pos
  merge_fields m := by
    refine (foldl_merge_services m.services []).trans ?_
    simp

theorem subscribeServiceRequestFormat_lawful : subscribeServiceRequestFormat.Lawful where
  encodable m p hp := by
    rcases List.mem_cons.mp hp with rfl | hp
    · exact Nat.one_pos
    · exact stringField_encodable (by omega) _ p hp
  merge_fields m := by
    obtain ⟨o, s⟩ := m
    cases s <;> simp [subscribeServiceRequestFormat, stringField]

theorem subscribeServiceResponseFormat_lawful : subscribeServiceResponseFormat.Lawful where
  encodable m p hp := by
    rcases List.mem_append.mp hp with hp | hp
    · exact enumField_encodable (by omega) _ _ p hp
    · exact stringField_encodable (by omega) _ p hp
  merge_fields m := by
    obtain ⟨e, s⟩ := m
    cases s <;> rcases e with _ | e <;> [rfl; (cases e <;> rfl); rfl; (cases e <;> rfl)]

theorem unsubscribeServiceRequestFormat_lawful : unsubscribeServiceRequestFormat.Lawful where
  encodable m := by simp [unsubscribeServiceRequestFormat, Wire.Encodable]
  merge_fields m := by simp [unsubscribeServiceRequestFormat]

theorem unsubscribeServiceResponseFormat_lawful : unsubscribeServiceResponseFormat.Lawful where
  encodable m := enumField_encodable (by omega) _ _
  merge_fields m := by
    obtain ⟨e⟩ := m
    rcases e with _ | e
    · rfl
    · cases e <;> rfl

theorem listMethodsRequestFormat_lawful : listMethodsRequestFormat.Lawful where
  encodable m := by simp [listMethodsRequestFormat, Wire.Encodable]
  merge_fields m := by simp [listMethodsRequestFormat]

theorem foldl_merge_methods (es pre : List MethodEntry) (err : Option ListMethodErrorType) :
    (es.map fun e => ((2, .bytes (encode (methodEntryFormat.fields e))) : Pair)).foldl
      listMethodsResponseFormat.merge ⟨err, pre⟩ = ⟨err, pre ++ es⟩ := by
  induction es generalizing pre with
  | nil => simp
  | cons e es ih =>
    have hstep : listMethodsResponseFormat.merge ⟨err, pre⟩
        (2, .bytes (encode (methodEntryFormat.fields e))) = ⟨err, pre ++ [e]⟩ := by
      simp only [listMethodsResponseFormat, Format.parse_encode methodEntryFormat_lawful]
    rw [List.map_cons, List.foldl_cons, hstep, ih, List.append_assoc, List.singleton_append]

theorem listMethodsResponseFormat_lawful : listMethodsResponseFormat.Lawful where
  encodable m p hp := by
    rcases List.mem_append.mp hp with hp | hp
    · exact enumField_encodable (by omega) _ _ p hp
    · obtain ⟨e, -, rfl⟩ := List.mem_map.mp hp
      exact Nat.two_pos
  merge_fields m := by
    obtain ⟨err, ms⟩ := m
    have herr : (enumField 1 listMethodErrorTypes err).foldl listMethodsResponseFormat.merge
        listMethodsResponseFormat.empty = ⟨err, []⟩ := by
      rcases err with _ | e
      · rfl
      · cases e <;> rfl
    refine (List.foldl_append ..).trans ?_
    rw [herr]
    exact foldl_merge_methods ms [] err

/-! ## What the required fields of a written message say -/

theorem hasEnum_append_left {k bound : ℕ} {ps qs : List Pair} (h : hasEnum k bound qs = false) :
    hasEnum k bound (ps ++ qs) = hasEnum k bound ps := by
  rw [hasEnum, List.any_append]
  exact (congrArg _ h).trans (Bool.or_false _)

theorem hasEnum_stringField (k bound j : ℕ) (x : Option Bytes) :
    hasEnum k bound (stringField j x) = false := by
  cases x <;> rfl

/-- An enum field is set when its value is among the known ones. -/
theorem hasEnum_enumField {α : Type} [DecidableEq α] (k : ℕ) {values : List α}
    (hv : ∀ e, e ∈ values) (x : Option α) :
    hasEnum k values.length (enumField k values x) = x.isSome := by
  cases x with
  | none => rfl
  | some e =>
    simp [hasEnum, enumField, List.idxOf_lt_length_iff.mpr (hv e)]

theorem mem_helloErrorTypes (e : HelloErrorType) : e ∈ helloErrorTypes := by
  cases e <;> decide

theorem mem_serviceSubscribeErrorTypes (e : ServiceSubscribeErrorType) :
    e ∈ serviceSubscribeErrorTypes := by cases e <;> decide

theorem mem_listMethodErrorTypes (e : ListMethodErrorType) : e ∈ listMethodErrorTypes := by
  cases e <;> decide

theorem helloRequest_initialized (m : HelloRequest) :
    helloRequestFormat.initialized (helloRequestFormat.fields m) = true := by
  obtain ⟨s, t, n⟩ := m
  cases s <;> cases t <;> rfl

/-- A list of entries, each with both its fields, sets all that is required of them. -/
theorem parse_serviceEntry (e : ServiceEntry) :
    (serviceEntryFormat.parse (encode (serviceEntryFormat.fields e))).1 = true := by
  rw [Format.parse_encode serviceEntryFormat_lawful]
  rfl

theorem parse_methodEntry (e : MethodEntry) :
    (methodEntryFormat.parse (encode (methodEntryFormat.fields e))).1 = true := by
  rw [Format.parse_encode methodEntryFormat_lawful]
  rfl

theorem listServicesResponse_initialized (m : ListServicesResponse) :
    listServicesResponseFormat.initialized (listServicesResponseFormat.fields m) = true := by
  refine List.all_eq_true.mpr fun p hp => ?_
  obtain ⟨e, -, rfl⟩ := List.mem_map.mp hp
  exact parse_serviceEntry e

theorem listMethodsResponse_initialized (m : ListMethodsResponse) :
    listMethodsResponseFormat.initialized (listMethodsResponseFormat.fields m) =
      m.error.isSome := by
  have hentries : ∀ p ∈ listMethodsResponseFormat.fields m,
      (match p with | (2, .bytes b) => (methodEntryFormat.parse b).1 | _ => true) = true := by
    intro p hp
    rcases List.mem_append.mp hp with hp | hp
    · obtain ⟨e, -, rfl⟩ := List.mem_map.mp hp
      rfl
    · obtain ⟨e, -, rfl⟩ := List.mem_map.mp hp
      exact parse_methodEntry e
  have hnone : hasEnum 1 listMethodErrorTypes.length
      (m.methods.map fun e => (2, .bytes (encode (methodEntryFormat.fields e)))) = false := by
    refine List.any_eq_false.mpr fun p hp => ?_
    obtain ⟨e, -, rfl⟩ := List.mem_map.mp hp
    exact Bool.false_ne_true
  have herr : hasEnum 1 listMethodErrorTypes.length (listMethodsResponseFormat.fields m) =
      m.error.isSome :=
    (hasEnum_append_left hnone).trans (hasEnum_enumField 1 mem_listMethodErrorTypes m.error)
  exact (congrArg₂ (· && ·) herr (List.all_eq_true.mpr hentries)).trans (Bool.and_true _)

/-- The codec of the wire format. -/
def basicProtocolCodec : BasicProtocolCodec where
  helloRequest := codecOf helloRequestFormat
  helloResponse := codecOf helloResponseFormat
  listServicesRequest := codecOf listServicesRequestFormat
  listServicesResponse := codecOf listServicesResponseFormat
  subscribeServiceRequest := codecOf subscribeServiceRequestFormat
  subscribeServiceResponse := codecOf subscribeServiceResponseFormat
  unsubscribeServiceRequest := codecOf unsubscribeServiceRequestFormat
  unsubscribeServiceResponse := codecOf unsubscribeServiceResponseFormat
  listMethodsRequest := codecOf listMethodsRequestFormat
  listMethodsResponse := codecOf listMethodsResponseFormat

/-- **The wire format behaves as documented.** -/
theorem basicProtocolCodec_lawful : basicProtocolCodec.Lawful where
  helloRequest := codecOf_lawful helloRequestFormat_lawful helloRequest_initialized
  helloResponse := codecOf_lawful helloResponseFormat_lawful fun m =>
    hasEnum_enumField 1 mem_helloErrorTypes m.errorType
  listServicesRequest := codecOf_lawful listServicesRequestFormat_lawful fun _ => rfl
  listServicesResponse :=
    codecOf_lawful listServicesResponseFormat_lawful listServicesResponse_initialized
  subscribeServiceRequest := codecOf_lawful subscribeServiceRequestFormat_lawful fun _ => rfl
  subscribeServiceResponse := codecOf_lawful subscribeServiceResponseFormat_lawful fun m =>
    (hasEnum_append_left (hasEnum_stringField 1 _ 2 _)).trans
      (hasEnum_enumField 1 mem_serviceSubscribeErrorTypes m.error)
  unsubscribeServiceRequest := codecOf_lawful unsubscribeServiceRequestFormat_lawful fun _ => rfl
  unsubscribeServiceResponse := codecOf_lawful unsubscribeServiceResponseFormat_lawful fun m =>
    hasEnum_enumField 1 mem_serviceSubscribeErrorTypes m.error
  listMethodsRequest := codecOf_lawful listMethodsRequestFormat_lawful fun _ => rfl
  listMethodsResponse :=
    codecOf_lawful listMethodsResponseFormat_lawful listMethodsResponse_initialized

/-- The concrete codec parses the empty string as documented. -/
theorem basicProtocolCodec_parsesEmpty : basicProtocolCodec.ParsesEmpty :=
  ⟨rfl, rfl, rfl, rfl, rfl⟩

end RblRpc
