import RblRpc.Common.OidName

/-!
# The messages of `BasicProtocol.proto`

Messages as the generated classes hold them: an unset field is `none`, and an accessor of an
unset enum field returns its default.  Request messages, which the code reads only after a
successful parse, hold the values of their accessors.

`MessageCodec` stands for the generated `SerializeToString` / `ParseFromString` of a type;
`MessageCodec.Lawful` is what protobuf documents about them.
-/

namespace RblRpc

inductive SourceConnectionType where
  | sourceGenerator
  | sourceRelay
  deriving DecidableEq, Repr, Inhabited

inductive DestinationConnectionType where
  | targetRelay
  | targetMarshall
  deriving DecidableEq, Repr, Inhabited

/-- `message ClientRequest`. -/
structure ClientRequest where
  serviceOrdinal : UInt32 := 0
  requestOrdinal : UInt32 := 0
  requestString : Bytes := []
  deriving DecidableEq, Inhabited

inductive ClientResponseErrorType where
  | requestSuccess
  | requestBackendNotAcceptingRequests
  | requestClientNotEstablished
  | requestNoServiceWithOrdinal
  | requestNoFunctionWithOrdinal
  | requestNotSubscribed
  | requestStringParseError
  | requestStringSerializeError
  deriving DecidableEq, Repr, Inhabited

/-- `message ClientResponse`. -/
structure ClientResponse where
  responseString : Option Bytes := none
  error : Option ClientResponseErrorType := none
  deriving DecidableEq, Inhabited

/-- `response().error()`: the default is `REQUEST_SUCCESS`. -/
def ClientResponse.getError (r : ClientResponse) : ClientResponseErrorType :=
  r.error.getD .requestSuccess

/-- `response().response_string()`. -/
def ClientResponse.getResponseString (r : ClientResponse) : Bytes := r.responseString.getD []

structure HelloRequest where
  sourceType : SourceConnectionType := .sourceGenerator
  expectedTarget : DestinationConnectionType := .targetRelay
  nodeName : Bytes := []
  deriving DecidableEq, Inhabited

inductive HelloErrorType where
  | noHelloErrors
  | destinationExpectationMismatch
  | sourceExpectationMismatch
  | clientAllreadyEstablished
  deriving DecidableEq, Repr, Inhabited

structure HelloResponse where
  errorType : Option HelloErrorType := none
  deriving DecidableEq, Inhabited

def HelloResponse.getErrorType (r : HelloResponse) : HelloErrorType :=
  r.errorType.getD .noHelloErrors

structure ListServicesRequest where
  deriving DecidableEq, Inhabited

structure ServiceEntry where
  serviceOrdinal : UInt32
  serviceName : Bytes
  deriving DecidableEq, Inhabited

structure ListServicesResponse where
  services : List ServiceEntry := []
  deriving DecidableEq, Inhabited

structure SubscribeServiceRequest where
  serviceOrdinal : UInt32 := 0
  subscribeRequestString : Option Bytes := none
  deriving DecidableEq, Inhabited

inductive ServiceSubscribeErrorType where
  | noSubscribeServiceError
  | serviceOrdinalNotInUse
  | serviceAllreadySubscribed
  | noSubscriptionForService
  deriving DecidableEq, Repr, Inhabited

structure SubscribeServiceResponse where
  error : Option ServiceSubscribeErrorType := none
  subscribeResultString : Option Bytes := none
  deriving DecidableEq, Inhabited

def SubscribeServiceResponse.getError (r : SubscribeServiceResponse) : ServiceSubscribeErrorType :=
  r.error.getD .noSubscribeServiceError

structure UnsubscribeServiceRequest where
  serviceOrdinal : UInt32 := 0
  deriving DecidableEq, Inhabited

structure UnsubscribeServiceResponse where
  error : Option ServiceSubscribeErrorType := none
  deriving DecidableEq, Inhabited

def UnsubscribeServiceResponse.getError (r : UnsubscribeServiceResponse) :
    ServiceSubscribeErrorType :=
  r.error.getD .noSubscribeServiceError

structure ListMethodsRequest where
  serviceOrdinal : UInt32 := 0
  deriving DecidableEq, Inhabited

inductive ListMethodErrorType where
  | noListMethodError
  | noServiceWithOrdinal
  deriving DecidableEq, Repr, Inhabited

structure MethodEntry where
  serviceOrdinal : UInt32
  serviceName : Bytes
  deriving DecidableEq, Inhabited

structure ListMethodsResponse where
  error : Option ListMethodErrorType := none
  methods : List MethodEntry := []
  deriving DecidableEq, Inhabited

def ListMethodsResponse.getError (r : ListMethodsResponse) : ListMethodErrorType :=
  r.error.getD .noListMethodError

/-! ## Serialising and parsing -/

/-- The generated serialiser (`none`: it returned false) and parser (its verdict, and what it
leaves in the message) of a message type. -/
structure MessageCodec (M : Type) where
  serializeToString : M → Option Bytes
  parseFromString : Bytes → Bool × M

/-- What protobuf documents: an initialised message survives a round trip; serialising one with
an unset required field fails or omits the field, and then the parser returns false. -/
structure MessageCodec.Lawful {M : Type} (codec : MessageCodec M) (initialized : M → Bool) :
    Prop where
  roundTrip : ∀ m, initialized m = true →
    ∃ b, codec.serializeToString m = some b ∧ codec.parseFromString b = (true, m)
  unset : ∀ m, initialized m = false → codec.serializeToString m = none ∨
    ∃ b, codec.serializeToString m = some b ∧ codec.parseFromString b = (false, m)

/-- What protobuf documents of the empty string: it sets no field. -/
def MessageCodec.ParsesEmpty {M : Type} [Inhabited M] (codec : MessageCodec M) : Prop :=
  (codec.parseFromString []).2 = default

/-- The codecs of the messages the service `basic_protocol` exchanges. -/
structure BasicProtocolCodec where
  helloRequest : MessageCodec HelloRequest
  helloResponse : MessageCodec HelloResponse
  listServicesRequest : MessageCodec ListServicesRequest
  listServicesResponse : MessageCodec ListServicesResponse
  subscribeServiceRequest : MessageCodec SubscribeServiceRequest
  subscribeServiceResponse : MessageCodec SubscribeServiceResponse
  unsubscribeServiceRequest : MessageCodec UnsubscribeServiceRequest
  unsubscribeServiceResponse : MessageCodec UnsubscribeServiceResponse
  listMethodsRequest : MessageCodec ListMethodsRequest
  listMethodsResponse : MessageCodec ListMethodsResponse

structure BasicProtocolCodec.Lawful (codec : BasicProtocolCodec) : Prop where
  helloRequest : codec.helloRequest.Lawful fun _ => true
  helloResponse : codec.helloResponse.Lawful fun m => m.errorType.isSome
  listServicesRequest : codec.listServicesRequest.Lawful fun _ => true
  listServicesResponse : codec.listServicesResponse.Lawful fun _ => true
  subscribeServiceRequest : codec.subscribeServiceRequest.Lawful fun _ => true
  subscribeServiceResponse : codec.subscribeServiceResponse.Lawful fun m => m.error.isSome
  unsubscribeServiceRequest : codec.unsubscribeServiceRequest.Lawful fun _ => true
  unsubscribeServiceResponse : codec.unsubscribeServiceResponse.Lawful fun m => m.error.isSome
  listMethodsRequest : codec.listMethodsRequest.Lawful fun _ => true
  listMethodsResponse : codec.listMethodsResponse.Lawful fun m => m.error.isSome

/-- The responses of `basic_protocol` parse the empty string. -/
structure BasicProtocolCodec.ParsesEmpty (codec : BasicProtocolCodec) : Prop where
  helloResponse : codec.helloResponse.ParsesEmpty
  listServicesResponse : codec.listServicesResponse.ParsesEmpty
  subscribeServiceResponse : codec.subscribeServiceResponse.ParsesEmpty
  unsubscribeServiceResponse : codec.unsubscribeServiceResponse.ParsesEmpty
  listMethodsResponse : codec.listMethodsResponse.ParsesEmpty

end RblRpc
