import RblRpc.Codegen.HeaderText

/-!
# The names of a file

The generator makes names by joining those of services and methods with `_`, so that functions and
classes of different services can have the same name.

* `serverNames`, `clientNames` — what the two headers add to the namespace of the file.
* `Plain` — the names of a file have no other meaning in a header.
* `joined_names_clash`, `method_service_clash`, `skeleton_clash` — **services that share a name**.
* `Boost.Splits` — the namespaces of a file are the parts of its package.
-/

namespace RblRpc

/-! ## What the headers declare -/

namespace ServiceDescriptor

/-- The tag and the skeleton, the dispatch functions, and the class. -/
def serverNames (sd : ServiceDescriptor) : List Bytes :=
  sd.dummyTagName :: sd.skelName :: (sd.methods.map sd.dispatchName ++ [sd.name.str])

/-- The methods with the types of their requests and responses. -/
def members (sd : ServiceDescriptor) : List (Bytes × Bytes × Bytes) :=
  sd.methods.map fun md => (md.name.str, md.inputType.str, md.outputType.str)

theorem dispatchNames_sublist (sd : ServiceDescriptor) :
    (sd.methods.map sd.dispatchName).Sublist sd.serverNames :=
  ((List.sublist_append_left _ _).cons _).cons _

theorem name_sublist (sd : ServiceDescriptor) : [sd.name.str].Sublist sd.serverNames :=
  ((List.sublist_append_right _ _).cons _).cons _

/-- Methods with different functions have different names. -/
theorem members_nodup {sd : ServiceDescriptor} (h : (sd.methods.map sd.dispatchName).Nodup) :
    (sd.members.map (·.1)).Nodup := by
  have hnames : sd.methods.map sd.dispatchName =
      (sd.members.map (·.1)).map fun m => sd.name.str ++ 95 :: m := by
    rw [members, List.map_map, List.map_map]
    rfl
  rw [hnames] at h
  exact h.of_map _

/-- Methods with different names have different functions. -/
theorem dispatchNames_nodup (sd : ServiceDescriptor)
    (h : (sd.methods.map fun md => md.name.str).Nodup) :
    (sd.methods.map sd.dispatchName).Nodup := by
  have hnames : sd.methods.map sd.dispatchName =
      (sd.methods.map fun md => md.name.str).map fun m => sd.name.str ++ 95 :: m := by
    rw [List.map_map]
    rfl
  rw [hnames]
  refine h.map fun m m' heq => ?_
  exact (List.cons.inj (List.append_cancel_left heq)).2

end ServiceDescriptor

namespace FileDescriptor

variable {file : FileDescriptor} {sd sd' : ServiceDescriptor} {md md' : MethodDescriptor}

def serverNames (file : FileDescriptor) : List Bytes :=
  file.services.flatMap ServiceDescriptor.serverNames

def clientNames (file : FileDescriptor) : List Bytes :=
  file.services.map ServiceDescriptor.clientName

/-- The names of the dispatch functions of a file. -/
def dispatchNames (file : FileDescriptor) : List Bytes :=
  file.services.flatMap fun sd => sd.methods.map sd.dispatchName

theorem dispatchNames_nodup (h : file.serverNames.Nodup) : file.dispatchNames.Nodup :=
  h.sublist (List.Sublist.flatMap_right _ fun sd _ => sd.dispatchNames_sublist)

theorem services_nodup (h : file.serverNames.Nodup) :
    (file.services.map fun sd => sd.name.str).Nodup := by
  rw [List.map_eq_flatMap]
  exact h.sublist (List.Sublist.flatMap_right _ fun sd _ => sd.name_sublist)

/-! ## Clashes -/

/-- **A method `skel` or `dummy_tag`**: its function has the name of the skeleton or of the tag. -/
theorem skeleton_clash (hsd : sd ∈ file.services) (hmd : md ∈ sd.methods)
    (hname : md.name.str = ascii "skel" ∨ md.name.str = ascii "dummy_tag") :
    ¬ file.serverNames.Nodup := by
  intro h
  have hself : sd.serverNames.Nodup := (List.nodup_flatMap.mp h).1 sd hsd
  rw [ServiceDescriptor.serverNames, List.nodup_cons, List.nodup_cons, List.mem_cons,
    not_or] at hself
  have hmem : sd.dispatchName md ∈ sd.methods.map sd.dispatchName ++ [sd.name.str] :=
    List.mem_append_left _ (List.mem_map_of_mem hmd)
  rw [ServiceDescriptor.dispatchName] at hmem
  rcases hname with hname | hname
  · have hskel : 95 :: ascii "skel" = ascii "_skel" := by
      rw [ascii_ofList, ascii_ofList]
      rfl
    rw [hname, hskel] at hmem
    exact hself.2.1 hmem
  · have htag : 95 :: ascii "dummy_tag" = ascii "_dummy_tag" := by
      rw [ascii_ofList, ascii_ofList]
      rfl
    rw [hname, htag] at hmem
    exact hself.1.2 hmem

/-! ## Plain names -/

/-- What a file must be for both headers: its stem stands in their guards; it is inside
`rubble.rpc`, and its methods and messages have no names that mean something else there. -/
structure Plain (file : FileDescriptor) (boost : Boost) (inc : Included) : Prop where
  stem : ∀ c ∈ boost.stem file.name, isIdentifierChar c = true
  parentPath : (10 : UInt8) ∉ boost.parentPath file.name
  package : ∃ n ns, file.package.map Identifier.str = ascii "rubble" :: ascii "rpc" :: n :: ns ∧
    (∀ m ∈ n :: ns, m ∉ inc.words) ∧ basicProtocolName ∉ ns
  messages : ∀ n ∈ inc.messages, n ∉ inc.words ∧ n ≠ basicProtocolName
  types : ∀ sd ∈ file.services, ∀ md ∈ sd.methods,
    md.inputType.str ∈ inc.messages ∧ md.outputType.str ∈ inc.messages
  methods : ∀ sd ∈ file.services, ∀ md ∈ sd.methods,
    md.name.str ∉ inc.words ∧ md.name.str ∉ inc.messages

/-- The names in the server's header; a service `basic_protocol` is the last. -/
structure PlainServer (file : FileDescriptor) (boost : Boost) (inc : Included) : Prop extends
    file.Plain boost inc where
  names : ∀ n ∈ file.serverNames, n ∉ inc.words
  last : basicProtocolName ∉ file.serverNames.dropLast
  skeletons : ∀ sd ∈ file.services, ∀ md ∈ sd.methods, md.name.str ≠ sd.skelName

/-- The names in the client's header. -/
structure PlainClient (file : FileDescriptor) (boost : Boost) (inc : Included) : Prop extends
    file.Plain boost inc where
  names : ∀ n ∈ file.clientNames, n ∉ inc.words ∧ n ∉ inc.messages
  classes : ∀ sd ∈ file.services, ∀ md ∈ sd.methods, md.name.str ≠ sd.clientName

theorem Plain.oneLine {boost : Boost} {inc : Included} (h : file.Plain boost inc) :
    file.OneLine boost := by
  refine ⟨fun hmem => ?_, h.parentPath⟩
  have hchar := h.stem 10 hmem
  revert hchar
  decide

end FileDescriptor

/-- No client is called `basic_protocol`. -/
theorem ServiceDescriptor.clientName_ne (sd : ServiceDescriptor) :
    sd.clientName ≠ basicProtocolName := by
  intro heq
  have hlast := congrArg List.getLast? heq
  rw [clientName, basicProtocolName, ascii_ofList, ascii_ofList, List.getLast?_append] at hlast
  simp at hlast

/-! ## Namespaces -/

/-- `char_separator(".")` splits a package into its parts. -/
def Boost.Splits (boost : Boost) : Prop :=
  ∀ names : List Identifier,
    boost.tokens ([46].intercalate (names.map Identifier.str)) = names.map Identifier.str

theorem tokensFrom_append {s : Bytes} (h : (46 : UInt8) ∉ s) (token rest : Bytes) :
    tokensFrom token (s ++ rest) = tokensFrom (token ++ s) rest := by
  induction s generalizing token with
  | nil => rw [List.append_nil, List.nil_append]
  | cons c s ih =>
    rw [List.mem_cons, not_or] at h
    rw [List.cons_append, tokensFrom, if_neg (Ne.symm h.1), ih h.2, List.append_assoc]
    rfl

theorem Boost.posix_splits : Boost.posix.Splits := by
  intro names
  show tokensFrom [] _ = _
  have hdot : ∀ n : Identifier, (46 : UInt8) ∉ n.str := by
    intro n hmem
    have hchar := n.chars 46 hmem
    revert hchar
    decide
  induction names with
  | nil => rfl
  | cons n ns ih =>
    have hne : n.str ≠ [] := n.printable.1
    cases ns with
    | nil =>
      have hlast := tokensFrom_append (hdot n) [] []
      rw [List.append_nil, List.nil_append] at hlast
      rw [List.map_singleton, List.intercalate_singleton, hlast, tokensFrom, if_neg hne]
    | cons m ns =>
      rw [List.map_cons, List.map_cons, List.intercalate_cons_cons, List.append_assoc,
        tokensFrom_append (hdot n), List.nil_append, List.singleton_append, tokensFrom, if_pos rfl,
        if_neg hne]
      exact congrArg (n.str :: ·) ih

/-! ## A shop -/

theorem shop_names : ∀ n ∈ ["rubble", "rpc", "shop", "cart", "orders", "cart_item", "add_item",
    "clear", "place", "cancel", "CLEAR", "Add_Item", "item", "item_count", "count", "Request",
    "Response"], isProtoIdentifier (ascii n) = true := by
  simp only [List.forall_mem_cons, List.not_mem_nil, false_imp_iff, implies_true, and_true]
  repeat rw [ascii_ofList]
  decide

theorem rubble_isProtoIdentifier : isProtoIdentifier (ascii "rubble") = true :=
  shop_names _ (by simp)

theorem rpc_isProtoIdentifier : isProtoIdentifier (ascii "rpc") = true :=
  shop_names _ (by simp)

theorem request_isProtoIdentifier : isProtoIdentifier (ascii "Request") = true :=
  shop_names _ (by simp)

theorem response_isProtoIdentifier : isProtoIdentifier (ascii "Response") = true :=
  shop_names _ (by simp)

/-- A file in `rubble.rpc.shop`. -/
def shopFile (services : List ServiceDescriptor) : FileDescriptor where
  name := ascii "shop/Shop.proto"
  package := [⟨ascii "rubble", rubble_isProtoIdentifier⟩, ⟨ascii "rpc", rpc_isProtoIdentifier⟩,
    ⟨ascii "shop", shop_names _ (by simp)⟩]
  services := services

def shopMethod (name : Identifier) : MethodDescriptor where
  name := name
  inputType := ⟨ascii "Request", request_isProtoIdentifier⟩
  outputType := ⟨ascii "Response", response_isProtoIdentifier⟩

def cart : ServiceDescriptor where
  name := ⟨ascii "cart", shop_names _ (by simp)⟩
  methods := [shopMethod ⟨ascii "add_item", shop_names _ (by simp)⟩,
    shopMethod ⟨ascii "clear", shop_names _ (by simp)⟩]

def orders : ServiceDescriptor where
  name := ⟨ascii "orders", shop_names _ (by simp)⟩
  methods := [shopMethod ⟨ascii "place", shop_names _ (by simp)⟩,
    shopMethod ⟨ascii "cancel", shop_names _ (by simp)⟩]

/-- The same service as another file has it. -/
def recasedCart : ServiceDescriptor where
  name := ⟨ascii "cart", shop_names _ (by simp)⟩
  methods := [shopMethod ⟨ascii "CLEAR", shop_names _ (by simp)⟩,
    shopMethod ⟨ascii "Add_Item", shop_names _ (by simp)⟩]

def shopIncluded : Included := ⟨[ascii "NDEBUG"], [ascii "Request", ascii "Response"]⟩

theorem shopPath_plain :
    (∀ c ∈ Boost.posix.stem (ascii "shop/Shop.proto"), isIdentifierChar c = true) ∧
      (10 : UInt8) ∉ Boost.posix.parentPath (ascii "shop/Shop.proto") := by
  decide +kernel

/-- Only these conditions depend on the services. -/
theorem shopFile_plain {services : List ServiceDescriptor} (h : ∀ sd ∈ services,
    ∀ md ∈ sd.methods, (md.inputType.str ∈ shopIncluded.messages ∧
      md.outputType.str ∈ shopIncluded.messages) ∧ md.name.str ∉ shopIncluded.words ∧
        md.name.str ∉ shopIncluded.messages) :
    (shopFile services).Plain Boost.posix shopIncluded where
  stem := shopPath_plain.1
  parentPath := shopPath_plain.2
  package := ⟨ascii "shop", [], rfl, by decide +kernel, List.not_mem_nil⟩
  messages := by decide +kernel
  types sd hsd md hmd := (h sd hsd md hmd).1
  methods sd hsd md hmd := (h sd hsd md hmd).2

end RblRpc
