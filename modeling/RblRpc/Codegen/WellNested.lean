import RblRpc.Codegen.Generator

/-!
# Well nested files

The functions of the generator one by one, with the loops over methods, services and namespaces.

* `createDispatchFunctions_outline` and the others — the braces of every function.
* `createDispatchFunctions_given` and the others — every template has its values.
* `serverFile_indentation` — the calls on the server's printer are nested, whatever the file.
* `clientFile_excess` — the client's printer outdents once more for every method.
* `WellNested` — steps and braces of both files are nested.
* `well_nested_iff` — when they are.
-/

namespace RblRpc

open DyckStep Nesting

variable {boost : Boost} {printer : Printer} {file : FileDescriptor} {sd : ServiceDescriptor}
  {md : MethodDescriptor} {b : Bytes}

/-! ## Names have no braces -/

theorem brace_of_identifierChar {c : UInt8} (h : isIdentifierChar c = true) :
    brace c = none ∧ c ≠ 36 := by
  refine ⟨?_, ?_⟩
  · rw [brace, if_neg, if_neg]
    all_goals
      rintro rfl
      revert h
      decide
  · rintro rfl
    revert h
    decide

theorem Identifier.chars (n : Identifier) : ∀ c ∈ n.str, isIdentifierChar c = true := by
  obtain ⟨str, h⟩ := n
  cases str with
  | nil => exact fun c hc => absurd hc List.not_mem_nil
  | cons c cs =>
    rw [isProtoIdentifier, Bool.and_eq_true, List.all_eq_true] at h
    exact h.2

theorem Identifier.braces_str (n : Identifier) : braces n.str = [] :=
  braces_eq_nil.mpr fun c hc => (brace_of_identifierChar (n.chars c hc)).1

theorem braces_lexicalCast (n : ℕ) : braces (lexicalCast n) = [] := by
  refine braces_eq_nil.mpr fun c hc => ?_
  obtain ⟨d, hd, rfl⟩ := List.mem_map.mp hc
  have hdigit := Char.isDigit_iff_toNat.mp
    (Nat.isDigit_of_mem_toDigits (by decide) (by decide) hd)
  have hle : d.toNat ≤ 57 := hdigit.2
  have htoNat : d.toNat.toUInt8.toNat = d.toNat := by
    rw [UInt8.toNat_ofNat']
    omega
  rw [brace, if_neg, if_neg]
  all_goals
    intro h
    rw [h] at htoNat
    have : (123 : UInt8).toNat = 123 := rfl
    have : (125 : UInt8).toNat = 125 := rfl
    omega

/-- A dotted name has the characters of its parts, and dots. -/
theorem mem_packageName {c : UInt8} (h : c ∈ file.packageName) :
    c = 46 ∨ isIdentifierChar c = true := by
  rw [FileDescriptor.packageName] at h
  generalize file.package = package at h
  induction package with
  | nil => exact absurd h List.not_mem_nil
  | cons n ns ih =>
    cases ns with
    | nil => exact .inr (n.chars c (by simpa using h))
    | cons m ms =>
      rw [List.map_cons, List.map_cons, List.intercalate_cons_cons, List.append_assoc,
        List.mem_append, List.mem_append, List.mem_singleton] at h
      rcases h with h | h | h
      · exact .inr (n.chars c h)
      · exact .inl h
      · exact ih h

/-- The tokens of a package name are made of the characters of identifiers. -/
theorem Boost.Lawful.token_chars (h : boost.Lawful) :
    ∀ t ∈ boost.tokens file.packageName, ∀ c ∈ t, isIdentifierChar c = true := by
  intro t ht c hc
  obtain ⟨hmem, hdot⟩ := h _ t ht c hc
  exact (mem_packageName hmem).resolve_left hdot

theorem segments_plain (h : (36 : UInt8) ∉ b) : segments b = b.map Segment.char := by
  unfold segments
  induction b with
  | nil => rfl
  | cons c cs ih =>
    rw [List.mem_cons, not_or] at h
    rw [segmentsFrom, if_neg (Ne.symm h.1), ih h.2, List.map_cons]

/-! ## The braces of the functions -/

theorem skelFunction_outline : outline (skelFunction md) = [U, D] := by
  simp only [skelFunction, outline_print, outline_nil, plain_cons, plain_nil,
    Identifier.braces_str, and_self]
  repeat rw [ascii_ofList]
  rfl

theorem createDispatchFunctions_outline :
    outline (createDispatchFunctions sd) = sd.methods.flatMap fun _ => [U, U, D, U, D, D] := by
  rw [createDispatchFunctions, outline_flatMap]
  refine List.flatMap_congr fun method _ => ?_
  simp only [outline_print, outline_indent, outline_outdent, outline_nil, plain_cons, plain_nil,
    Identifier.braces_str, and_self]
  repeat rw [ascii_ofList]
  rfl

theorem createConstructor_outline : outline (createConstructor sd) = [U, D] := by
  rw [createConstructor, outline_append, outline_append, outline_flatMap,
    List.flatMap_eq_nil_iff.mpr]
  · simp only [outline_print, outline_indent, outline_outdent, outline_nil, plain_cons, plain_nil,
      Identifier.braces_str, and_self]
    repeat rw [ascii_ofList]
    rfl
  · rintro ⟨method, i⟩ -
    simp only [outline_print, outline_nil, plain_cons, plain_nil, Identifier.braces_str,
      braces_lexicalCast, and_self]
    repeat rw [ascii_ofList]
    rfl

theorem createDispatchFunction_outline : outline createDispatchFunction = [U, D, U, D] := by
  simp only [createDispatchFunction, outline_print, outline_indent, outline_outdent, outline_nil,
    plain_nil]
  repeat rw [ascii_ofList]
  rfl

theorem skelClass_outline : outline (skelClass sd) =
    [U, D, U, U, D, U, D, U, D, U, D] ++ (sd.methods.flatMap fun _ => [U, D]) ++ [D] := by
  rw [skelClass, outline_append, outline_append, outline_flatMap]
  simp only [skelFunction_outline]
  refine congrArg₂ _ (congrArg₂ _ ?_ rfl) ?_
  · simp only [outline_print, outline_indent, outline_nil, plain_cons, plain_nil,
      Identifier.braces_str, and_self]
    repeat rw [ascii_ofList]
    rfl
  · simp only [outline_print, outline_outdent, outline_nil, plain_nil]
    repeat rw [ascii_ofList]
    rfl

theorem serviceClass_outline : outline (serviceClass sd) =
    [U, U, D, U, D, U, D, U, D, U, D, U, D, U, D, U, D, U, D, U, D, U, D, U, D, D] := by
  rw [serviceClass, outline_append, outline_append, outline_append, createConstructor_outline,
    createDispatchFunction_outline]
  simp only [outline_print, outline_indent, outline_outdent, outline_nil, plain_cons, plain_nil,
    Identifier.braces_str, and_self]
  repeat rw [ascii_ofList]
  rfl

theorem createService_outline : Nested (outline (createService sd)) := by
  rw [createService, outline_indent, outline_append, outline_append, outline_append,
    skelClass_outline, createDispatchFunctions_outline, serviceClass_outline]
  have hskel : Nested ([U, D, U, U, D, U, D, U, D, U, D] ++ (sd.methods.flatMap fun _ => [U, D]) ++
      [D]) := by
    have hinner : Nested ([U, D, U, D, U, D, U, D] ++ sd.methods.flatMap fun _ => [U, D]) :=
      Nested.append (by decide) (.flatMap fun _ _ => by decide)
    have hpair : Nested [U, D] := by decide
    simpa using hpair.append hinner.nest
  exact ((hskel.append (.flatMap fun _ _ => by decide)).append (by decide)).append .nil

theorem clientMethod_outline (i : ℕ) : outline (clientMethod md i) = [U, U, D, D] := by
  simp only [clientMethod, outline_print, outline_indent, outline_outdent, outline_nil, plain_cons,
    plain_nil, Identifier.braces_str, braces_lexicalCast, and_self]
  repeat rw [ascii_ofList]
  rfl

theorem createClientService_outline : outline (createClientService sd) =
    [U, U, D] ++ (sd.methods.zipIdx.flatMap fun _ => [U, U, D, D]) ++ [D] := by
  rw [createClientService, outline_append, outline_append, outline_append, outline_append,
    outline_flatMap, outline_flatMap]
  simp only [clientMethod_outline]
  refine congrArg₂ _ (congrArg₂ _ ?_ rfl) ?_
  · rw [List.flatMap_eq_nil_iff.mpr]
    · simp only [outline_print, outline_indent, outline_outdent, outline_nil, plain_cons,
        plain_nil, Identifier.braces_str, braces_lexicalCast, and_self]
      repeat rw [ascii_ofList]
      rfl
    · rintro ⟨method, i⟩ -
      simp only [outline_print, outline_nil, plain_cons, plain_nil, Identifier.braces_str,
        braces_lexicalCast, and_self]
      repeat rw [ascii_ofList]
      rfl
  · simp only [outline_print, outline_outdent, outline_nil, plain_nil]
    repeat rw [ascii_ofList]
    rfl

theorem createClientService_nested : Nested (outline (createClientService sd)) := by
  have hloop : Nested (sd.methods.zipIdx.flatMap fun _ => [U, U, D, D]) :=
    .flatMap fun _ _ => by decide
  have hctor : Nested [U, D] := by decide
  rw [createClientService_outline]
  simpa using (hctor.append hloop).nest

/-! ## Every variable has a value -/

theorem skelFunction_given : allGiven (skelFunction md) = true := by
  simp only [skelFunction, allGiven_print, allGiven_nil, List.map_cons, List.map_nil]
  repeat rw [ascii_ofList]
  rfl

theorem createDispatchFunctions_given : allGiven (createDispatchFunctions sd) = true := by
  refine allGiven_flatMap fun method _ => ?_
  simp only [allGiven_print, allGiven_indent, allGiven_outdent, allGiven_nil, List.map_cons,
    List.map_nil]
  repeat rw [ascii_ofList]
  rfl

theorem createConstructor_given : allGiven (createConstructor sd) = true := by
  rw [createConstructor, allGiven_append, allGiven_append, allGiven_flatMap, Bool.and_true]
  · simp only [allGiven_print, allGiven_indent, allGiven_outdent, allGiven_nil, List.map_cons,
      List.map_nil]
    repeat rw [ascii_ofList]
    rfl
  · rintro ⟨method, i⟩ -
    simp only [allGiven_print, allGiven_nil, List.map_cons, List.map_nil]
    repeat rw [ascii_ofList]
    rfl

theorem createDispatchFunction_given : allGiven createDispatchFunction = true := by
  simp only [createDispatchFunction, allGiven_print, allGiven_indent, allGiven_outdent,
    allGiven_nil, List.map_nil]
  repeat rw [ascii_ofList]
  rfl

theorem skelClass_given : allGiven (skelClass sd) = true := by
  rw [skelClass, allGiven_append, allGiven_append,
    allGiven_flatMap fun method _ => skelFunction_given]
  simp only [allGiven_print, allGiven_indent, allGiven_outdent, allGiven_nil, List.map_cons,
    List.map_nil]
  repeat rw [ascii_ofList]
  rfl

theorem serviceClass_given : allGiven (serviceClass sd) = true := by
  rw [serviceClass, allGiven_append, allGiven_append, allGiven_append, createConstructor_given,
    createDispatchFunction_given]
  simp only [allGiven_print, allGiven_indent, allGiven_outdent, allGiven_nil, List.map_cons,
    List.map_nil]
  repeat rw [ascii_ofList]
  rfl

theorem createService_given : allGiven (createService sd) = true := by
  rw [createService, allGiven_indent, allGiven_append, allGiven_append, allGiven_append,
    skelClass_given, createDispatchFunctions_given, serviceClass_given]
  rfl

theorem clientMethod_given (i : ℕ) : allGiven (clientMethod md i) = true := by
  simp only [clientMethod, allGiven_print, allGiven_indent, allGiven_outdent, allGiven_nil,
    List.map_cons, List.map_nil]
  repeat rw [ascii_ofList]
  rfl

theorem createClientService_given : allGiven (createClientService sd) = true := by
  have hmethods : allGiven (sd.methods.zipIdx.flatMap fun method =>
      clientMethod method.1 method.2) = true := allGiven_flatMap fun _ _ => clientMethod_given _
  rw [createClientService, allGiven_append, allGiven_append, allGiven_append, allGiven_append,
    hmethods, allGiven_flatMap, Bool.and_true, Bool.and_true]
  · simp only [allGiven_print, allGiven_indent, allGiven_outdent, allGiven_nil, List.map_cons,
      List.map_nil]
    repeat rw [ascii_ofList]
    rfl
  · rintro ⟨method, i⟩ -
    simp only [allGiven_print, allGiven_nil, List.map_cons, List.map_nil]
    repeat rw [ascii_ofList]
    rfl

/-! ## Namespaces -/

/-- A token is printed as it stands. -/
theorem token_call {token : Bytes} (h : ∀ c ∈ token, isIdentifierChar c = true) :
    (PrinterCall.print (token.takeWhile (· ≠ 0)) []).given = true ∧
      braces (PrinterCall.print (token.takeWhile (· ≠ 0)) []).text = [] := by
  have hchars : ∀ c ∈ token.takeWhile (· ≠ 0), brace c = none ∧ c ≠ 36 := fun c hc =>
    brace_of_identifierChar (h c ((List.takeWhile_prefix _).subset hc))
  have hplain := segments_plain (b := token.takeWhile (· ≠ 0)) fun h36 => (hchars 36 h36).2 rfl
  refine ⟨?_, ?_⟩
  · rw [PrinterCall.given, hplain, List.all_eq_true]
    intro s hs
    obtain ⟨c, -, rfl⟩ := List.mem_map.mp hs
    rfl
  · rw [braces_text fun v hv => absurd hv List.not_mem_nil, template, hplain,
      List.flatMap_eq_nil_iff]
    intro s hs
    obtain ⟨c, hc, rfl⟩ := List.mem_map.mp hs
    simp [(hchars c hc).1]

variable {tokens : List Bytes}

theorem openNamespaces_turn {ns : Bytes × ℕ} (h : ns ∈ tokens.zipIdx) : ns.2 ≠ tokens.length := by
  have := (List.mem_zipIdx h).2.1
  omega

theorem openNamespaces_given (h : ∀ t ∈ tokens, ∀ c ∈ t, isIdentifierChar c = true) :
    allGiven (openNamespaces tokens) = true := by
  refine allGiven_flatMap fun ns hns => ?_
  rw [if_neg (openNamespaces_turn hns), allGiven_print, allGiven_cons,
    (token_call (h ns.1 (List.fst_mem_of_mem_zipIdx hns))).1, allGiven_print]
  repeat rw [ascii_ofList]
  rfl

theorem openNamespaces_outline (h : ∀ t ∈ tokens, ∀ c ∈ t, isIdentifierChar c = true) :
    outline (openNamespaces tokens) = List.replicate tokens.length U := by
  have hturn : ∀ ns ∈ tokens.zipIdx, outline (if ns.2 = tokens.length then [print "\n" []]
      else [print "namespace " [], .print (ns.1.takeWhile (· ≠ 0)) [], print " \x7b\n" []]) =
      [U] := by
    intro ns hns
    rw [if_neg (openNamespaces_turn hns), outline_print plain_nil, outline_cons,
      (token_call (h ns.1 (List.fst_mem_of_mem_zipIdx hns))).2, outline_print plain_nil]
    repeat rw [ascii_ofList]
    rfl
  rw [openNamespaces, outline_flatMap, List.flatMap_congr hturn, ← List.map_eq_flatMap,
    List.map_const', List.length_zipIdx]

theorem closeNamespaces_given (n : ℕ) : allGiven (closeNamespaces n) = true := by
  rw [closeNamespaces]
  split
  · refine allGiven_flatMap fun i _ => ?_
    split
    · rfl
    · split <;> rfl
  · rfl

/-- The last turn of the loop prints no brace. -/
theorem closeNamespaces_outline (n : ℕ) :
    outline (closeNamespaces n) = List.replicate n D := by
  rw [closeNamespaces]
  split
  · have hturn : ∀ i ∈ List.range n, outline (if i = n then [print "\n" []]
        else if i = 0 then [print "\x7d" []] else [print " \x7d" []]) = [D] := by
      intro i hi
      rw [if_neg (Nat.ne_of_lt (List.mem_range.mp hi))]
      split <;> rfl
    have hlast : outline [print "\n" []] = [] := by rfl
    rw [outline_flatMap, List.range_succ, List.flatMap_append, List.flatMap_congr hturn,
      ← List.map_eq_flatMap, List.map_const', List.length_range, List.flatMap_singleton,
      if_pos rfl, hlast, List.append_nil]
  · rename_i hn
    rw [not_not.mp hn]
    rfl

/-! ## Indentation -/

theorem createDispatchFunctions_indentation :
    indentation (createDispatchFunctions sd) = sd.methods.flatMap fun _ => [U, D] := by
  simp [createDispatchFunctions]

theorem createConstructor_indentation : indentation (createConstructor sd) = [U, D] := by
  simp [createConstructor]

theorem createDispatchFunction_indentation :
    indentation createDispatchFunction = [U, D, U, D] := by
  simp [createDispatchFunction]

theorem skelClass_indentation : indentation (skelClass sd) = [U, D] := by
  simp [skelClass, skelFunction]

theorem serviceClass_indentation :
    indentation (serviceClass sd) = [U, U, D, U, D, U, D, D, U, D] := by
  simp [serviceClass, createConstructor_indentation, createDispatchFunction_indentation]

theorem createService_indentation : Nested (indentation (createService sd)) := by
  have hbody : Nested ([U, D] ++ (sd.methods.flatMap fun _ => [U, D]) ++
      [U, U, D, U, D, U, D, D, U, D]) :=
    (Nested.append (by decide) (.flatMap fun _ _ => by decide)).append (by decide)
  rw [createService, indentation_indent, indentation_append, indentation_append,
    indentation_append, skelClass_indentation, createDispatchFunctions_indentation,
    serviceClass_indentation]
  exact hbody.nest

theorem clientMethod_indentation (i : ℕ) : indentation (clientMethod md i) = [U, D, D] := by
  simp [clientMethod]

theorem createClientService_indentation : indentation (createClientService sd) =
    [U, U, U, D] ++ (sd.methods.zipIdx.flatMap fun _ => [U, D, D]) ++ [D, D] := by
  simp [createClientService, clientMethod_indentation]

/-- The calls on the client's printer for one service close once more for each method. -/
theorem createClientService_excess : (indentation (createClientService sd)).count D =
    (indentation (createClientService sd)).count U + sd.methodCount := by
  have hU : [U, D, D].count U = 1 := rfl
  have hD : [U, D, D].count D = 2 := rfl
  rw [createClientService_indentation]
  simp only [List.count_append, count_turns, hU, hD, List.length_zipIdx,
    ServiceDescriptor.methodCount]
  have hopen : [U, U, U, D].count U = 3 ∧ [U, U, U, D].count D = 1 := ⟨rfl, rfl⟩
  have hclose : [D, D].count U = 0 ∧ [D, D].count D = 2 := ⟨rfl, rfl⟩
  omega

theorem openNamespaces_indentation : indentation (openNamespaces tokens) = [] := by
  rw [openNamespaces, indentation_flatMap, List.flatMap_eq_nil_iff]
  intro ns _
  split <;> rfl

theorem closeNamespaces_indentation (n : ℕ) : indentation (closeNamespaces n) = [] := by
  rw [closeNamespaces]
  split
  · rw [indentation_flatMap, List.flatMap_eq_nil_iff]
    intro i _
    split
    · rfl
    · split <;> rfl
  · rfl

/-! ## The files -/

/-- The server's printer is at the level of the start again, and never was below it. -/
theorem serverFile_indentation : Nested (indentation (serverFile boost file).calls) := by
  have hcalls : indentation (serverFile boost file).calls =
      file.services.flatMap fun sd => indentation (createService sd) := by
    simp [serverFile, openNamespaces_indentation, closeNamespaces_indentation]
  rw [hcalls]
  exact .flatMap fun _ _ => createService_indentation

theorem clientFile_indentation : indentation (clientFile boost file).calls =
    file.services.flatMap fun sd => indentation (createClientService sd) := by
  simp [clientFile, openNamespaces_indentation, closeNamespaces_indentation]

/-- The client's printer is outdented once too often for each method of the file. -/
theorem clientFile_excess (boost : Boost) (file : FileDescriptor) :
    (indentation (clientFile boost file).calls).count D =
      (indentation (clientFile boost file).calls).count U +
        (file.services.map ServiceDescriptor.methodCount).sum := by
  rw [clientFile_indentation]
  induction file.services with
  | nil => rfl
  | cons sd sds ih =>
    rw [List.flatMap_cons, List.count_append, List.count_append, ih, createClientService_excess,
      List.map_cons, List.sum_cons]
    omega

/-- Its calls are nested in a file without methods only. -/
theorem clientFile_nested : Nested (indentation (clientFile boost file).calls) ↔
    ∀ sd ∈ file.services, sd.methods = [] := by
  constructor
  · intro h sd hsd
    have hexcess := clientFile_excess boost file
    have hsum : (file.services.map ServiceDescriptor.methodCount).sum = 0 := by
      have := h.balanced
      omega
    have hcount := List.sum_eq_zero_iff_forall_eq_nat.mp hsum _ (List.mem_map_of_mem hsd)
    exact List.eq_nil_of_length_eq_zero hcount
  · intro h
    rw [clientFile_indentation]
    refine .flatMap fun sd hsd => ?_
    rw [createClientService_indentation, h sd hsd]
    decide

theorem serverFile_given (h : boost.Lawful) : allGiven (serverFile boost file).calls = true := by
  rw [serverFile, allGiven_append, allGiven_append, allGiven_append, allGiven_append,
    openNamespaces_given h.token_chars, closeNamespaces_given,
    allGiven_flatMap fun _ _ => createService_given]
  simp only [allGiven_print, allGiven_nil, List.map_cons, List.map_nil]
  repeat rw [ascii_ofList]
  rfl

theorem clientFile_given (h : boost.Lawful) : allGiven (clientFile boost file).calls = true := by
  rw [clientFile, allGiven_append, allGiven_append, allGiven_append, allGiven_append,
    openNamespaces_given h.token_chars, closeNamespaces_given,
    allGiven_flatMap fun _ _ => createClientService_given]
  simp only [allGiven_print, allGiven_nil, List.map_cons, List.map_nil]
  repeat rw [ascii_ofList]
  rfl

/-- The stem of the file's name three times, the parent path once, and the namespaces. -/
theorem framed {x y w : List DyckStep} (h : boost.Lawful) (hw : Nested w) :
    Nested (x ++ (x ++ (y ++ (x ++ (outline (openNamespaces (boost.tokens file.packageName)) ++
      (w ++ outline (closeNamespaces (boost.tokens file.packageName).length))))))) ↔
        Nested x ∧ Nested y := by
  rw [openNamespaces_outline h.token_chars, closeNamespaces_outline]
  exact Nested.repeated (hw.layers _)

theorem quoted_hole : OneHole "#include \"$incl$\" \n" "incl" := .of_chars rfl rfl

theorem bracketed_hole : OneHole "#include <$incl$> \n" "incl" := .of_chars rfl rfl

theorem lastInclude_hole : OneHole "#include <$incl$> \n\n" "incl" := .of_chars rfl rfl

/-- The include guard and the first `#include` print the name of the file. -/
theorem serverFile_outline (h : boost.Lawful) : Nested (outline (serverFile boost file).calls) ↔
    Nested (braces (boost.stem file.name)) ∧ Nested (braces (boost.parentPath file.name)) := by
  have hifndef : OneHole "#ifndef RBL_RPC_GEN_$STEM$_SERVER_H\n" "STEM" := .of_chars rfl rfl
  have hdefine : OneHole "#define RBL_RPC_GEN_$STEM$_SERVER_H\n\n" "STEM" := .of_chars rfl rfl
  have hliterals : braces (ascii "_SERVER_RBLRPC_H") = [] ∧ braces (ascii ".pb.h") = [] ∧
      braces (ascii "rpc/backend/ClientServiceCookies.h") = [] ∧
      braces (ascii "rpc/backend/ServiceBase.h") = [] ∧
      braces (ascii "rpc/common/rpc_errors.h") = [] ∧ braces (ascii "boost/cstdint.hpp") = [] ∧
      braces (ascii "boost/type_traits/is_same.hpp") = [] := by
    repeat rw [ascii_ofList]
    exact ⟨rfl, rfl, rfl, rfl, rfl, rfl, rfl⟩
  have hendif : outline [print "#endif" []] = [] := by
    rw [outline_print plain_nil, ascii_ofList]
    rfl
  rw [serverFile, outline_append, outline_append, outline_append, outline_append,
    outline_hole hifndef, outline_hole hdefine, outline_hole quoted_hole, hendif]
  simp only [outline_hole bracketed_hole, outline_hole lastInclude_hole, braces_append, hliterals,
    outline_nil, List.append_nil, List.append_assoc, outline_flatMap]
  exact framed h (.flatMap fun _ _ => createService_outline)

theorem clientFile_outline (h : boost.Lawful) : Nested (outline (clientFile boost file).calls) ↔
    Nested (braces (boost.stem file.name)) ∧ Nested (braces (boost.parentPath file.name)) := by
  have hifndef : OneHole "#ifndef RBL_RPC_GEN_$STEM$_CLIENT_H\n" "STEM" := .of_chars rfl rfl
  have hdefine : OneHole "#define RBL_RPC_GEN_$STEM$_CLIENT_H\n\n" "STEM" := .of_chars rfl rfl
  have hliterals : braces (ascii "_CLIENT_RBLRPC_H") = [] ∧ braces (ascii ".pb.h") = [] ∧
      braces (ascii "rpc/client/ClientBase.h") = [] ∧ braces (ascii "boost/cstdint.hpp") = [] := by
    repeat rw [ascii_ofList]
    exact ⟨rfl, rfl, rfl, rfl⟩
  have hendif : outline [print "#endif\n" []] = [] := by
    rw [outline_print plain_nil, ascii_ofList]
    rfl
  rw [clientFile, outline_append, outline_append, outline_append, outline_append,
    outline_hole hifndef, outline_hole hdefine, outline_hole quoted_hole,
    outline_hole quoted_hole, outline_hole lastInclude_hole, hendif]
  simp only [braces_append, hliterals, outline_nil, List.append_nil, List.append_assoc,
    outline_flatMap]
  exact framed h (.flatMap fun _ _ => createClientService_nested)

/-! ## The generated files -/

/-- In both files the calls that indent and outdent are nested, and so are the braces. -/
structure WellNested (boost : Boost) (printer : Printer) (file : FileDescriptor) : Prop where
  indents : ∀ out ∈ (generate boost file).2, Nested (indentation out.calls)
  braced : ∀ out ∈ (generate boost file).2, Nested (braces (printer.written out.calls))

/-- The server's file has the braces of its name, whatever its services are. -/
theorem serverFile_braced (hb : boost.Lawful) (hp : printer.Lawful) :
    Nested (braces (printer.written (serverFile boost file).calls)) ↔
      Nested (braces (boost.stem file.name)) ∧ Nested (braces (boost.parentPath file.name)) := by
  rw [hp.braces_written ⟨serverFile_given hb, serverFile_indentation.covered⟩,
    serverFile_outline hb]

/-- So has the client's file when its printer is used well. -/
theorem clientFile_braced (hb : boost.Lawful) (hp : printer.Lawful)
    (hn : Nested (indentation (clientFile boost file).calls)) :
    Nested (braces (printer.written (clientFile boost file).calls)) ↔
      Nested (braces (boost.stem file.name)) ∧ Nested (braces (boost.parentPath file.name)) := by
  rw [hp.braces_written ⟨clientFile_given hb, hn.covered⟩, clientFile_outline hb]

theorem forall_generated {P : OutputFile → Prop} : (∀ out ∈ (generate boost file).2, P out) ↔
    P (serverFile boost file) ∧ P (clientFile boost file) := by
  simp [generate]

/-- The files are well nested if and only if no service has a method, and the braces in the stem and
in the parent path of the file's name are nested. -/
theorem well_nested_iff (boost : Boost) (printer : Printer) (hb : boost.Lawful)
    (hp : printer.Lawful) (file : FileDescriptor) :
    WellNested boost printer file ↔
      (∀ sd ∈ file.services, sd.methods = []) ∧
        Nested (braces (boost.stem file.name)) ∧ Nested (braces (boost.parentPath file.name)) := by
  constructor
  · rintro ⟨hindents, hbraced⟩
    have hclient := (forall_generated.mp hindents).2
    have hserver := (forall_generated.mp hbraced).1
    exact ⟨clientFile_nested.mp hclient, (serverFile_braced hb hp).mp hserver⟩
  · rintro ⟨hmethods, hname⟩
    have hclient : Nested (indentation (clientFile boost file).calls) :=
      clientFile_nested.mpr hmethods
    exact ⟨forall_generated.mpr ⟨serverFile_indentation, hclient⟩,
      forall_generated.mpr ⟨(serverFile_braced hb hp).mpr hname,
        (clientFile_braced hb hp hclient).mpr hname⟩⟩

/-! ## A service with a method -/

/-- The names of `TestService.proto`. -/
theorem testService_names : ∀ n ∈ ["rubble", "rpc", "test_proto", "test_service_one", "dummy_rpc",
    "Request", "Response"], isProtoIdentifier (ascii n) = true := by
  simp only [List.forall_mem_cons, List.not_mem_nil, false_imp_iff, implies_true, and_true]
  repeat rw [ascii_ofList]
  exact ⟨rfl, rfl, rfl, rfl, rfl, rfl, rfl⟩

/-- A file of this name with the given methods. -/
def testService (methods : List MethodDescriptor) : FileDescriptor where
  name := ascii "rpc/proto/TestService.proto"
  package :=
    [⟨ascii "rubble", testService_names _ (by simp)⟩, ⟨ascii "rpc", testService_names _ (by simp)⟩,
      ⟨ascii "test_proto", testService_names _ (by simp)⟩]
  services := [⟨⟨ascii "test_service_one", testService_names _ (by simp)⟩, methods⟩]

def dummyRpc : MethodDescriptor where
  name := ⟨ascii "dummy_rpc", testService_names _ (by simp)⟩
  inputType := ⟨ascii "Request", testService_names _ (by simp)⟩
  outputType := ⟨ascii "Response", testService_names _ (by simp)⟩

/-- Without methods. -/
theorem well_nested_iff_sample :
    WellNested Boost.posix Printer.indenting (testService []) := by
  refine (well_nested_iff _ _ Boost.posix_lawful Printer.indenting_lawful _).mpr ⟨?_, ?_, ?_⟩
  · intro sd hsd
    rw [List.mem_singleton.mp hsd]
  · decide +kernel
  · decide +kernel

/-- With the method of the file, the client's printer is outdented below the start. -/
theorem testService_not_well_nested :
    ¬ WellNested Boost.posix Printer.indenting (testService [dummyRpc]) := by
  rintro ⟨hindents, -⟩
  have hclient := (forall_generated.mp hindents).2
  rw [clientFile_indentation] at hclient
  revert hclient
  simp only [testService, List.flatMap_cons, List.flatMap_nil, createClientService_indentation]
  decide

end RblRpc
