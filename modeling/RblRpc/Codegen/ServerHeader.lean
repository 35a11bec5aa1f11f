import RblRpc.Codegen.Naming

/-!
# The server's header

The statements of a header are blocks: a function or a class, and what is in it.  The header has to
compile, and then a dispatch function is looked for by its name.

* `sections_blocks` — a header is taken apart at the heads of its blocks.
* `compiles_server` — when the header compiles.
* `GeneratedService` — what it has to say of a service.
* `server_header_iff` — **when it says that of every service.**
-/

namespace RblRpc

open Template

/-! ## Blocks -/

/-- A head with what belongs to it. -/
abbrev Block := Statement × List Statement

def Block.statements (b : Block) : List Statement := b.1 :: b.2

/-- Only the head begins a section. -/
def Block.Sound (begins : Statement → Bool) (b : Block) : Prop :=
  begins b.1 = true ∧ ∀ s ∈ b.2, begins s = false

section

variable {begins : Statement → Bool} {ss body : List Statement} {blocks : List Block}

theorem sections_append (h : ∀ s ∈ body, begins s = false) :
    sections begins (body ++ ss) = sections begins ss := by
  induction body with
  | nil => rfl
  | cons s body ih =>
    rw [List.forall_mem_cons] at h
    rw [List.cons_append, sections, if_neg (by simp [h.1]), ih h.2]

theorem takeWhile_blocks (h : ∀ s ∈ body, begins s = false)
    (hblocks : ∀ b ∈ blocks, b.Sound begins) :
    (body ++ blocks.flatMap Block.statements).takeWhile (!begins ·) = body := by
  rw [List.takeWhile_append_of_pos fun s hs => by simp [h s hs]]
  cases blocks with
  | nil => simp
  | cons b blocks =>
    have hhead := (hblocks b List.mem_cons_self).1
    rw [List.flatMap_cons, Block.statements, List.cons_append,
      List.takeWhile_cons_of_neg (by simp [hhead]), List.append_nil]

/-- **A header is taken apart** at the heads of its blocks. -/
theorem sections_blocks (h : ∀ b ∈ blocks, b.Sound begins) :
    sections begins (blocks.flatMap Block.statements) = blocks := by
  induction blocks with
  | nil => rfl
  | cons b blocks ih =>
    rw [List.forall_mem_cons] at h
    obtain ⟨head, body⟩ := b
    rw [List.flatMap_cons, Block.statements, List.cons_append, sections, if_pos h.1.1,
      takeWhile_blocks h.1.2 h.2, sections_append h.1.2, ih h.2]

end

/-! ## Keys -/

section

variable {α β κ : Type} [DecidableEq κ] {k : κ} {p : κ × β} {ps : List (κ × β)}

/-- Of blocks with different keys, those of one key. -/
theorem flatMap_of_key {xs : List α} {key : α → κ} {f : α → List β} (hkeys : (xs.map key).Nodup)
    {x : α} (hx : x ∈ xs) : (xs.flatMap fun y => if key y = key x then f y else []) = f x := by
  induction xs with
  | nil => exact absurd hx List.not_mem_nil
  | cons y ys ih =>
    rw [List.map_cons, List.nodup_cons, List.mem_map] at hkeys
    rw [List.flatMap_cons]
    rcases List.mem_cons.mp hx with rfl | hx
    · have hrest : (ys.flatMap fun y => if key y = key x then f y else []) = [] := by
        rw [List.flatMap_eq_nil_iff]
        intro z hz
        rw [if_neg fun heq => hkeys.1 ⟨z, hz, heq⟩]
      rw [if_pos rfl, hrest, List.append_nil]
    · rw [if_neg fun heq => hkeys.1 ⟨x, hx, heq.symm⟩, ih hkeys.2 hx, List.nil_append]

/-- What is found under a key. -/
def foundAt (ps : List (κ × β)) (k : κ) : List β :=
  ps.filterMap fun p => if p.1 = k then some p.2 else none

theorem foundAt_self : foundAt (p :: ps) p.1 = p.2 :: foundAt ps p.1 :=
  List.filterMap_cons_some (if_pos rfl)

theorem foundAt_of_ne (h : p.1 ≠ k) : foundAt (p :: ps) k = foundAt ps k :=
  List.filterMap_cons_none (if_neg h)

theorem foundAt_eq_nil : foundAt ps k = [] ↔ k ∉ ps.map (·.1) := by
  induction ps with
  | nil => simp [foundAt]
  | cons p ps ih =>
    by_cases h : p.1 = k
    · subst h
      simp [foundAt_self]
    · rw [foundAt_of_ne h, ih, List.map_cons, List.mem_cons, not_or]
      exact ⟨fun hmem => ⟨Ne.symm h, hmem⟩, And.right⟩

/-- **With different keys** each is found once. -/
theorem foundAt_of_mem (hkeys : (ps.map (·.1)).Nodup) (hp : p ∈ ps) : foundAt ps p.1 = [p.2] := by
  induction ps with
  | nil => exact absurd hp List.not_mem_nil
  | cons q qs ih =>
    rw [List.map_cons, List.nodup_cons] at hkeys
    rcases List.mem_cons.mp hp with rfl | hp
    · rw [foundAt_self, foundAt_eq_nil.mpr hkeys.1]
    · have hne : q.1 ≠ p.1 := fun heq =>
        hkeys.1 (heq ▸ List.mem_map_of_mem (f := (·.1)) hp)
      rw [foundAt_of_ne hne, ih hkeys.2 hp]

end

/-! ## Headers that compile -/

theorem openedNamespaces_inside (tokens : List Bytes) :
    ∀ s ∈ openedNamespaces tokens, s.declares = false := by
  intro s hs
  obtain ⟨t, -, hs⟩ := List.mem_flatMap.mp hs
  split at hs
  · exact absurd hs List.not_mem_nil
  · rw [List.mem_singleton.mp hs]
    rfl

/-- The namespaces of a header. -/
theorem nameSpaces_opened {tokens : List Bytes} (h : ∀ t ∈ tokens, t ≠ []) :
    (openedNamespaces tokens).filterMap Statement.nameSpace? = tokens := by
  induction tokens with
  | nil => rfl
  | cons t ts ih =>
    rw [List.forall_mem_cons] at h
    rw [openedNamespaces, List.flatMap_cons, if_neg h.1]
    exact congrArg (t :: ·) (ih h.2)

/-- The members of a class are those of its methods. -/
theorem membersFit_iff {words : List Bytes} {cls : Bytes} {sd : ServiceDescriptor} :
    MembersFit words (some cls, sd.members) ↔
      (sd.members.map (·.1)).Nodup ∧ ∀ md ∈ sd.methods, md.name.str ∉ words ∧ md.name.str ≠ cls ∧
        ∀ md' ∈ sd.methods, md.name.str ≠ md'.inputType.str ∧ md.name.str ≠ md'.outputType.str := by
  simp only [MembersFit, ServiceDescriptor.members, List.forall_mem_map, ne_eq, Option.some.injEq]

/-- No members. -/
theorem membersFit_nil {words : List Bytes} {cls : Option Bytes} : MembersFit words (cls, []) :=
  ⟨List.nodup_nil, fun _ hm => absurd hm List.not_mem_nil⟩

/-- The methods of a plain file, of which `cls` is the class. -/
theorem FileDescriptor.Plain.membersFit {file : FileDescriptor} {boost : Boost} {inc : Included}
    {cls : Bytes} (h : file.Plain boost inc) {sd : ServiceDescriptor} (hsd : sd ∈ file.services)
    (hcls : ∀ md ∈ sd.methods, md.name.str ≠ cls) (hnodup : (sd.members.map (·.1)).Nodup) :
    MembersFit inc.words (some cls, sd.members) := by
  refine membersFit_iff.mpr ⟨hnodup, fun md hmd => ?_⟩
  obtain ⟨hword, hmessage⟩ := h.methods sd hsd md hmd
  refine ⟨hword, hcls md hmd, fun md' hmd' => ?_⟩
  obtain ⟨hinput, houtput⟩ := h.types sd hsd md' hmd'
  exact ⟨fun heq => hmessage (heq ▸ hinput), fun heq => hmessage (heq ▸ houtput)⟩

/-- The namespaces of a plain file are inside `rubble::rpc`, if its classes open none. -/
theorem FileDescriptor.Plain.nameSpaces {file : FileDescriptor} {boost : Boost} {inc : Included}
    (h : file.Plain boost inc) (hs : boost.Splits) {classes : List Statement}
    (hclasses : ∀ s ∈ classes, s.nameSpace? = none) :
    ∃ n ns, (openedNamespaces (boost.tokens file.packageName) ++ classes).filterMap
        Statement.nameSpace? = ascii "rubble" :: ascii "rpc" :: n :: ns ∧
      (∀ m ∈ n :: ns, m ∉ inc.words) ∧ basicProtocolName ∉ ns := by
  have htokens : boost.tokens file.packageName = file.package.map Identifier.str := hs file.package
  rw [List.filterMap_append, List.filterMap_eq_nil_iff.mpr hclasses, List.append_nil, htokens,
    nameSpaces_opened (List.forall_mem_map.mpr fun n _ => n.printable.1)]
  exact h.package

/-! ## The server's header -/

namespace ServiceDescriptor

variable (sd : ServiceDescriptor)

/-- The dispatch functions, by their names. -/
def functions : List (Bytes × List DispatchStep) :=
  sd.methods.map fun md =>
    (sd.dispatchName md, dispatchSteps md.inputType.str md.outputType.str md.name.str)

/-- The calls of the constructor. -/
def entries : List (Bytes × ℕ × Bytes) :=
  sd.methods.zipIdx.map fun method => (method.1.name.str, method.2, sd.dispatchName method.1)

def skelBlocks : List Block :=
  [(.dummyTag sd.dummyTagName, []),
    (.skelClass sd.skelName, sd.members.map fun m => .skelMethod m.1 m.2.1 m.2.2)]

def functionBlocks : List Block :=
  sd.functions.map fun f => (.dispatchFunction f.1, f.2.map .dispatchStep)

def classBlock : Block :=
  (.serviceClass sd.name.str, sd.entries.map fun e => .setDispatchEntry e.1 e.2.1 e.2.2)

def serverBlocks : List Block := sd.skelBlocks ++ sd.functionBlocks ++ [sd.classBlock]

theorem serverStatements_eq : serverStatements sd = sd.serverBlocks.flatMap Block.statements := by
  simp [serverStatements, serverBlocks, skelBlocks, functionBlocks, classBlock, functions, entries,
    members, Block.statements, List.flatMap_map, Function.comp_def]

/-- No namespace is opened between the classes. -/
theorem serverStatements_inside : ∀ s ∈ serverStatements sd, s.nameSpace? = none := by
  simp only [serverStatements, List.forall_mem_append, List.forall_mem_cons, List.forall_mem_map,
    List.forall_mem_flatMap, Statement.nameSpace?, implies_true, and_self]

theorem serverBlocks_sound : ∀ b ∈ sd.serverBlocks, b.Sound Statement.declares := by
  intro b hb
  rcases List.mem_append.mp hb with hb | hb
  · rcases List.mem_append.mp hb with hb | hb
    · rcases List.mem_cons.mp hb with rfl | hb
      · exact ⟨rfl, fun s hs => absurd hs List.not_mem_nil⟩
      · obtain rfl := List.mem_singleton.mp hb
        exact ⟨rfl, List.forall_mem_map.mpr fun _ _ => rfl⟩
    · obtain ⟨f, -, rfl⟩ := List.mem_map.mp hb
      exact ⟨rfl, List.forall_mem_map.mpr fun _ _ => rfl⟩
  · obtain rfl := List.mem_singleton.mp hb
    exact ⟨rfl, List.forall_mem_map.mpr fun _ _ => rfl⟩

/-- The names that the blocks of a service declare. -/
theorem serverBlocks_declared :
    sd.serverBlocks.filterMap (·.1.declared?) = sd.serverNames := by
  have hfunctions : sd.functionBlocks.filterMap (·.1.declared?) =
      sd.methods.map sd.dispatchName := by
    rw [functionBlocks, List.filterMap_map, functions, List.filterMap_map]
    exact congrFun List.filterMap_eq_map _
  rw [serverBlocks, List.filterMap_append, List.filterMap_append, hfunctions]
  rfl

/-- Only the skeleton has members. -/
theorem serverBlocks_members : ∀ b ∈ sd.serverBlocks,
    b.2.filterMap Statement.member? = [] ∨
      b.1.declared? = some sd.skelName ∧ b.2.filterMap Statement.member? = sd.members := by
  intro b hb
  rcases List.mem_append.mp hb with hb | hb
  · rcases List.mem_append.mp hb with hb | hb
    · rcases List.mem_cons.mp hb with rfl | hb
      · exact .inl rfl
      · obtain rfl := List.mem_singleton.mp hb
        refine .inr ⟨rfl, ?_⟩
        rw [List.filterMap_map]
        exact List.filterMap_some
    · obtain ⟨f, -, rfl⟩ := List.mem_map.mp hb
      refine .inl ?_
      rw [List.filterMap_map]
      exact List.filterMap_eq_nil_iff.mpr fun _ _ => rfl
  · obtain rfl := List.mem_singleton.mp hb
    refine .inl ?_
    rw [classBlock, List.filterMap_map]
    exact List.filterMap_eq_nil_iff.mpr fun _ _ => rfl

end ServiceDescriptor

/-- The dispatch functions of a file. -/
def FileDescriptor.functions (file : FileDescriptor) : List (Bytes × List DispatchStep) :=
  file.services.flatMap ServiceDescriptor.functions

theorem FileDescriptor.functions_names (file : FileDescriptor) :
    file.functions.map (·.1) = file.dispatchNames := by
  rw [functions, List.map_flatMap, dispatchNames]
  refine List.flatMap_congr fun sd _ => ?_
  rw [ServiceDescriptor.functions, List.map_map]
  rfl

/-- What the server's header of a file consists of. -/
def ServerText (boost : Boost) (file : FileDescriptor) (header : Bytes) : Prop :=
  statements header = openedNamespaces (boost.tokens file.packageName) ++
    file.services.flatMap serverStatements

section

variable {boost : Boost} {header : Bytes} {file : FileDescriptor} {sd : ServiceDescriptor}

theorem blocks_server (h : ServerText boost file header) :
    blocks header = file.services.flatMap ServiceDescriptor.serverBlocks := by
  have hblocks : file.services.flatMap serverStatements =
      (file.services.flatMap ServiceDescriptor.serverBlocks).flatMap Block.statements := by
    rw [List.flatMap_assoc]
    exact List.flatMap_congr fun sd _ => sd.serverStatements_eq
  rw [blocks, h, hblocks, sections_append (openedNamespaces_inside _)]
  refine sections_blocks fun b hb => ?_
  obtain ⟨sd, -, hmem⟩ := List.mem_flatMap.mp hb
  exact sd.serverBlocks_sound b hmem

theorem declaredNames_server (h : ServerText boost file header) :
    declaredNames header = file.serverNames := by
  rw [declaredNames, blocks_server h, List.filterMap_flatMap]
  exact List.flatMap_congr fun sd _ => sd.serverBlocks_declared

theorem classMembers_server (h : ServerText boost file header) :
    ∀ c ∈ classMembers header, c.2 = [] ∨
      ∃ sd ∈ file.services, c = (some sd.skelName, sd.members) := by
  intro c hc
  obtain ⟨b, hb, rfl⟩ := List.mem_map.mp hc
  rw [blocks_server h] at hb
  obtain ⟨sd, hsd, hmem⟩ := List.mem_flatMap.mp hb
  rcases sd.serverBlocks_members b hmem with hnil | ⟨hname, hmembers⟩
  · exact .inl hnil
  · exact .inr ⟨sd, hsd, by rw [hname, hmembers]⟩

/-- **The names of a server's header** do not clash if no two are the same, and none has another
meaning. -/
theorem wellFormed_server {words : List Bytes} (h : ServerText boost file header)
    (hnodup : file.serverNames.Nodup) (hwords : ∀ n ∈ file.serverNames, n ∉ words)
    (hlast : basicProtocolName ∉ file.serverNames.dropLast)
    (hmembers : ∀ sd ∈ file.services, (sd.members.map (·.1)).Nodup →
      MembersFit words (some sd.skelName, sd.members)) : WellFormed words header := by
  have hnames := declaredNames_server h
  refine ⟨hnames ▸ hnodup, hnames ▸ hwords, hnames ▸ hlast, fun c hc => ?_⟩
  rcases classMembers_server h c hc with hnil | ⟨sd, hsd, rfl⟩
  · obtain ⟨name, ms⟩ := c
    obtain rfl : ms = [] := hnil
    exact membersFit_nil
  · refine hmembers sd hsd (ServiceDescriptor.members_nodup ?_)
    exact ((List.nodup_flatMap.mp hnodup).1 sd hsd).sublist sd.dispatchNames_sublist

/-- **When the server's header compiles.** -/
theorem compiles_server {inc : Included} (h : ServerText boost file header) (hs : boost.Splits)
    (hfile : file.PlainServer boost inc) :
    Compiles inc header ↔ file.serverNames.Nodup ∧ ∀ n ∈ file.serverNames, n ∉ inc.messages := by
  have hnames := declaredNames_server h
  constructor
  · intro hc
    exact ⟨hnames ▸ hc.wellFormed.1, hnames ▸ hc.declared⟩
  · rintro ⟨hnodup, hmessages⟩
    refine ⟨?_, wellFormed_server h hnodup hfile.names hfile.last fun sd hsd =>
      hfile.membersFit hsd (hfile.skeletons sd hsd), hfile.messages, hnames ▸ hmessages, ?_⟩
    · rw [h]
      exact hfile.nameSpaces hs
        (List.forall_mem_flatMap.mpr fun sd _ => sd.serverStatements_inside)
    · intro c hc m hm
      rcases classMembers_server h c hc with hnil | ⟨sd, hsd, rfl⟩
      · rw [hnil] at hm
        exact absurd hm List.not_mem_nil
      · obtain ⟨md, hmd, rfl⟩ := List.mem_map.mp hm
        exact hfile.types sd hsd md hmd

/-- The definitions of a function. -/
theorem definitions_server (h : ServerText boost file header) (f : Bytes) :
    definitions header f = foundAt file.functions f := by
  rw [definitions, blocks_server h, foundAt, FileDescriptor.functions, List.filterMap_flatMap,
    List.filterMap_flatMap]
  refine List.flatMap_congr fun sd _ => ?_
  -- neither the skeleton nor the class is a function
  have hskel : sd.skelBlocks.filterMap (fun d => if d.1 = .dispatchFunction f then
      some (d.2.filterMap Statement.dispatchStep?) else none) = [] := by
    simp [ServiceDescriptor.skelBlocks]
  have hclass : [sd.classBlock].filterMap (fun d => if d.1 = .dispatchFunction f then
      some (d.2.filterMap Statement.dispatchStep?) else none) = [] := by
    simp [ServiceDescriptor.classBlock]
  rw [ServiceDescriptor.serverBlocks, List.filterMap_append, List.filterMap_append, hskel, hclass,
    List.nil_append, List.append_nil, ServiceDescriptor.functionBlocks, List.filterMap_map]
  refine List.filterMap_congr fun p _ => ?_
  by_cases hp : p.1 = f
  · have hsteps : (p.2.map Statement.dispatchStep).filterMap Statement.dispatchStep? = p.2 := by
      rw [List.filterMap_map]
      exact List.filterMap_some
    simp only [Function.comp, hp, if_true, hsteps]
  · simp [hp]

/-- The calls of a constructor. -/
theorem serviceEntries_server (h : ServerText boost file header)
    (hnames : (file.services.map fun sd => sd.name.str).Nodup) (hsd : sd ∈ file.services) :
    serviceEntries header sd.name.str = sd.entries := by
  rw [serviceEntries, blocks_server h, List.flatMap_assoc]
  have hblocks : ∀ sd' : ServiceDescriptor, (sd'.serverBlocks.flatMap fun d =>
      if d.1 = .serviceClass sd.name.str then d.2.filterMap Statement.setDispatchEntry? else []) =
        if sd'.name.str = sd.name.str then sd'.entries else [] := by
    intro sd'
    have hskel : (sd'.skelBlocks.flatMap fun d => if d.1 = .serviceClass sd.name.str then
        d.2.filterMap Statement.setDispatchEntry? else []) = [] := by
      simp [ServiceDescriptor.skelBlocks]
    have hfunctions : (sd'.functionBlocks.flatMap fun d => if d.1 = .serviceClass sd.name.str then
        d.2.filterMap Statement.setDispatchEntry? else []) = [] := by
      rw [ServiceDescriptor.functionBlocks, List.flatMap_map, List.flatMap_eq_nil_iff]
      intro f _
      exact if_neg Statement.noConfusion
    have hentries : (sd'.entries.map fun e =>
        Statement.setDispatchEntry e.1 e.2.1 e.2.2).filterMap Statement.setDispatchEntry? =
          sd'.entries := by
      rw [List.filterMap_map]
      exact List.filterMap_some
    rw [ServiceDescriptor.serverBlocks, List.flatMap_append, List.flatMap_append, hskel, hfunctions,
      List.nil_append, List.nil_append, List.flatMap_singleton, ServiceDescriptor.classBlock,
      hentries]
    by_cases hname : sd'.name.str = sd.name.str
    · rw [if_pos hname, if_pos (by rw [hname])]
    · rw [if_neg hname, if_neg fun heq => hname (Statement.serviceClass.inj heq)]
  rw [List.flatMap_congr fun sd' _ => hblocks sd']
  exact flatMap_of_key hnames hsd

end

/-! ## Constructors -/

/-- The entries of a constructor, numbered in order, are its methods. -/
theorem setEntries_zipIdx {α M : Type} [Inhabited M] (name : α → Bytes) (value : α → M)
    (xs : List α) (i : ℕ) (c : OidContainer M) :
    setEntries ((xs.zipIdx i).map fun x => (name x.1, x.2, value x.1)) c =
      setMethods (xs.map fun x => (name x, value x)) (UInt32.ofNat i) c := by
  induction xs generalizing i c with
  | nil => rfl
  | cons x xs ih =>
    have hnext : UInt32.ofNat i + 1 = UInt32.ofNat (i + 1) := by
      rw [UInt32.ofNat_add]
      rfl
    rw [List.zipIdx_cons, List.map_cons, List.map_cons, setEntries, setMethods, hnext]
    refine congrArg _ (funext fun id => ?_)
    rcases c.setEntry ⟨id, value x⟩ with ⟨c', _ | _⟩
    · rfl
    · exact ih (i + 1) c'

theorem mapM_eq_map {α β : Type} {f : α → Option β} {g : α → β} {xs : List α}
    (h : ∀ x ∈ xs, f x = some (g x)) : xs.mapM f = some (xs.map g) := by
  induction xs with
  | nil => rfl
  | cons x xs ih =>
    rw [List.forall_mem_cons] at h
    rw [List.mapM_cons, h.1, ih h.2]
    rfl

/-- The header says what a service is: the constructor fills the table with the methods in order,
and the function of each parses a request, calls the method and serialises its result. -/
def DescribesService (header : Bytes) (sd : ServiceDescriptor) : Prop :=
  ∃ body : MethodDescriptor → List DispatchStep,
    dispatchTable header sd.name.str =
      some (buildTable (sd.methods.map fun md => (md.name.str, body md))) ∧
    ∀ md ∈ sd.methods, ∀ (M : Type) (env : DispatchEnv M) (b : BackEnd) (cd : ClientData)
      (m_in m_out : M),
      runDispatch env false (body md)
          { backEnd := b, clientData := cd, m_in := m_in, m_out := m_out } =
        runMethod (env.codec md.inputType.str) (env.codec md.outputType.str)
          (env.impl md.name.str) b cd

/-- **The header compiles, and says what a service is.** -/
def GeneratedService (inc : Included) (header : Bytes) (sd : ServiceDescriptor) : Prop :=
  Compiles inc header ∧ DescribesService header sd

section

variable {boost : Boost} {header : Bytes} {file : FileDescriptor} {sd : ServiceDescriptor}

/-- The one definition of a function. -/
theorem definition_server (h : ServerText boost file header) (hnodup : file.dispatchNames.Nodup)
    (hsd : sd ∈ file.services) {md : MethodDescriptor} (hmd : md ∈ sd.methods) :
    definition header (sd.dispatchName md) =
      some (dispatchSteps md.inputType.str md.outputType.str md.name.str) := by
  rw [← FileDescriptor.functions_names] at hnodup
  have hmem : (sd.dispatchName md,
      dispatchSteps md.inputType.str md.outputType.str md.name.str) ∈ file.functions :=
    List.mem_flatMap.mpr ⟨sd, hsd, List.mem_map_of_mem hmd⟩
  rw [definition, definitions_server h, foundAt_of_mem hnodup hmem]

/-- **The constructor of a service** in a header whose names do not clash. -/
theorem dispatchTable_server (h : ServerText boost file header)
    (hformed : WellFormed reservedWords header) (hsd : sd ∈ file.services) :
    dispatchTable header sd.name.str = some (buildTable (sd.methods.map fun md =>
      (md.name.str, dispatchSteps md.inputType.str md.outputType.str md.name.str))) := by
  have hnodup : file.serverNames.Nodup := declaredNames_server h ▸ hformed.1
  have hentries : (sd.methods.zipIdx.map fun method => (method.1.name.str, method.2,
      sd.dispatchName method.1)).mapM (fun e => do
        return (e.1, e.2.1, ← definition header e.2.2) : _ → Option _) =
      some (sd.methods.zipIdx.map fun method => (method.1.name.str, method.2,
        dispatchSteps method.1.inputType.str method.1.outputType.str method.1.name.str)) := by
    rw [List.mapM_map]
    refine mapM_eq_map fun method hmethod => ?_
    simp [definition_server h (FileDescriptor.dispatchNames_nodup hnodup) hsd
      (List.fst_mem_of_mem_zipIdx hmethod)]
  rw [dispatchTable, guard, if_pos hformed,
    serviceEntries_server h (FileDescriptor.services_nodup hnodup) hsd,
    ServiceDescriptor.entries, hentries, buildTable]
  exact congrArg some (setEntries_zipIdx (fun md => md.name.str)
    (fun md => dispatchSteps md.inputType.str md.outputType.str md.name.str) sd.methods 0 .empty)

theorem describesService (h : ServerText boost file header)
    (hformed : WellFormed reservedWords header) (hsd : sd ∈ file.services) :
    DescribesService header sd :=
  ⟨_, dispatchTable_server h hformed hsd, fun _ _ _ env b cd m_in m_out =>
    runDispatch_dispatchSteps env _ _ _ b cd m_in m_out⟩

/-- A header that compiles says what a service is. -/
theorem Compiles.generatedService {inc : Included} (hc : Compiles inc header)
    (h : ServerText boost file header) (hsd : sd ∈ file.services) :
    GeneratedService inc header sd :=
  ⟨hc, describesService h (hc.wellFormed.mono (List.subset_append_left _ _)) hsd⟩

end

variable {boost : Boost} {printer : Printer} {file : FileDescriptor} {inc : Included}

theorem shopFile_plainServer {services : List ServiceDescriptor}
    (h : ∀ sd ∈ services, ∀ md ∈ sd.methods, (md.inputType.str ∈ shopIncluded.messages ∧
      md.outputType.str ∈ shopIncluded.messages) ∧ md.name.str ∉ shopIncluded.words ∧
        md.name.str ∉ shopIncluded.messages)
    (hnames : (∀ n ∈ (shopFile services).serverNames, n ∉ shopIncluded.words) ∧
      basicProtocolName ∉ (shopFile services).serverNames.dropLast ∧
        ∀ sd ∈ services, ∀ md ∈ sd.methods, md.name.str ≠ sd.skelName) :
    (shopFile services).PlainServer Boost.posix shopIncluded where
  toPlain := shopFile_plain h
  names := hnames.1
  last := hnames.2.1
  skeletons := hnames.2.2

end RblRpc
