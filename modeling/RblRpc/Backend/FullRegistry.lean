import Mathlib.Data.List.TakeWhile
import RblRpc.Backend.CookieRange

/-!
# A full registry

The counter of the services has 16 bits, and so has an ordinal: a registry takes 65536 services.

* `numberedService` — services with different names, one for each number.
* `Filled` — the registry after the first of them; `filled_reaches`.
* `Full`, `fullRegistry_reaches` — **a back end with 65536 services is reachable.**
-/

namespace RblRpc

open OidContainer World

/-! ## Different names -/

/-- Three characters that `to_lower` keeps. -/
def numberedName (i : ℕ) : Bytes :=
  [UInt8.ofNat (128 + i % 128), UInt8.ofNat (128 + i / 128 % 128), UInt8.ofNat (128 + i / 16384)]

/-- A service without functions. -/
def numberedService (i : ℕ) : Service where
  name := numberedName i
  impl := .application .empty
  init _ := {}
  teardown _ := {}

/-- Characters outside of ASCII are kept. -/
theorem normalize_of_high {s : Bytes} (h : ∀ x ∈ s, 128 ≤ x.toNat) : OidName.normalize s = s := by
  have hmap : s.map toLower = s := by
    rw [← List.map_id s, List.map_map]
    refine List.map_congr_left fun x hx => if_neg fun hle => ?_
    have hhigh := h x hx
    have hlow := UInt8.le_iff_toNat_le.mp hle.2
    rw [show (90 : UInt8).toNat = 90 from rfl] at hlow
    exact absurd (hhigh.trans hlow) (by decide)
  rw [OidName.normalize, hmap, List.takeWhile_eq_self_iff]
  intro x hx
  have hhigh := h x hx
  refine decide_eq_true fun hzero => ?_
  rw [hzero] at hhigh
  exact absurd hhigh (by decide)

variable {i j n : ℕ}

theorem numberedName_toNat (hi : i < 2 ^ 16) : (numberedName i).map UInt8.toNat =
    [128 + i % 128, 128 + i / 128 % 128, 128 + i / 16384] := by
  simp only [numberedName, List.map_cons, List.map_nil, UInt8.toNat_ofNat']
  congr 1
  · omega
  · congr 1
    · omega
    · congr 1
      omega

theorem normalize_numberedName (hi : i < 2 ^ 16) :
    OidName.normalize (numberedName i) = numberedName i := by
  refine normalize_of_high fun x hx => ?_
  have hmem := List.mem_map_of_mem (f := UInt8.toNat) hx
  rw [numberedName_toNat hi] at hmem
  simp only [List.mem_cons, List.not_mem_nil, or_false] at hmem
  omega

theorem numberedName_inj (hi : i < 2 ^ 16) (hj : j < 2 ^ 16)
    (h : numberedName i = numberedName j) : i = j := by
  have hmap := congrArg (List.map UInt8.toNat) h
  rw [numberedName_toNat hi, numberedName_toNat hj] at hmap
  simp only [List.cons.injEq, and_true] at hmap
  omega

/-! ## Filling the registry -/

/-- Nothing but the registry has changed since the constructor. -/
def OnlyRegistry (w : World) : Prop :=
  ∃ services ec count, w = (init .sourceRelay .targetMarshall).setBackEnd
    { sourceType := .sourceRelay, backendType := .targetMarshall, services := services, ec := ec,
      serviceCount := count }

/-- `basic_protocol` and the first `n` numbered services are registered. -/
structure Filled (n : ℕ) (w : World) : Prop where
  registered : ∃ acc, acc.length = n + 1 ∧ BackEnd.Registered acc w.backEnd
  names : ∀ i e, w.backEnd.services.at? i = some e →
    e.name.str = ascii "basic_protocol" ∨ ∃ j < n, e.name.str = numberedName j
  only : OnlyRegistry w

variable {w w' : World}

/-- A registration changes the registry only. -/
theorem OnlyRegistry.register (h : OnlyRegistry w) (s : Service) :
    OnlyRegistry (w.setBackEnd (w.backEnd.registerAndInitService s).1) := by
  obtain ⟨services, ec, count, rfl⟩ := h
  obtain ⟨services', ec', count', heq⟩ := BackEnd.registerAndInitService_writes s
    ((init .sourceRelay .targetMarshall).setBackEnd
      { sourceType := .sourceRelay, backendType := .targetMarshall, services := services, ec := ec,
        serviceCount := count }).backEnd
  rw [heq]
  exact ⟨services', ec', count', rfl⟩

/-- **The next service has a name of its own.** -/
theorem Filled.freshName (h : Filled n w) (hn : n < 2 ^ 16) :
    w.backEnd.FreshName (numberedService n) := by
  intro i e he hname
  have hnorm : OidName.normalize (numberedService n).name = numberedName n :=
    normalize_numberedName hn
  rw [hnorm] at hname
  rcases h.names i e he with hbasic | ⟨j, hj, hother⟩
  · have hlen := congrArg List.length (hname.symm.trans hbasic)
    exact absurd hlen (show 3 ≠ 14 by decide)
  · have hsame := numberedName_inj hn (hj.trans hn) (hname.symm.trans hother)
    omega

/-- What the next registration makes of the registry. -/
theorem Filled.register (h : Filled n w) (hn : n < 2 ^ 16) :
    ∃ e : OidContainerEntry (Option Service), e.ordinal = w.backEnd.serviceCount ∧
      e.entry = some (numberedService n) ∧ e.name.str = numberedName n ∧ e.isInitialized = true ∧
      Fresh w.backEnd.services e ∧ (w.backEnd.registerAndInitService (numberedService n)).1 =
        { w.backEnd with
          services := w.backEnd.services.placed e
          ec := (numberedService n).init w.backEnd.ec
          serviceCount := w.backEnd.serviceCount + 1 } := by
  obtain ⟨acc, -, hreg⟩ := h.registered
  have hnorm : OidName.normalize (numberedService n).name = numberedName n :=
    normalize_numberedName hn
  obtain ⟨e, hord, hentry, hname, hinit, hfresh, heq⟩ := hreg.register_fresh
    (s := numberedService n) (show 3 ≤ 31 by decide) (by rw [hnorm]; exact List.cons_ne_nil _ _)
    (h.freshName hn)
  exact ⟨e, hord, hentry, hname.trans hnorm, hinit, hfresh, by rw [heq]; rfl⟩

/-- One service more. -/
theorem Filled.succ (h : Filled n w) (hn : n < 65534) :
    Filled (n + 1) (w.setBackEnd (w.backEnd.registerAndInitService (numberedService n)).1) := by
  obtain ⟨e, hord, hentry, hname, hinit, hfresh, heq⟩ := h.register (by omega)
  obtain ⟨acc, hlen, hreg⟩ := h.registered
  refine ⟨⟨acc ++ [numberedService n], ?_, ?_⟩, fun i x hx => ?_, h.only.register _⟩
  · rw [List.length_append, hlen, List.length_singleton]
  · rw [setBackEnd_backEnd, heq]
    exact hreg.append hord hentry hinit hfresh (by rw [hreg.serviceCount, hlen]; omega)
  · rw [setBackEnd_backEnd, heq] at hx
    rw [at?_placed hinit] at hx
    split at hx
    · cases hx
      exact .inr ⟨n, Nat.lt_succ_self n, hname⟩
    · rcases h.names i x hx with hbasic | ⟨j, hj, hother⟩
      · exact .inl hbasic
      · exact .inr ⟨j, hj.trans (Nat.lt_succ_self n), hother⟩

theorem filled_init : Filled 0 (init .sourceRelay .targetMarshall) := by
  have hempty : BackEnd.Registered [] { sourceType := .sourceRelay, backendType := .targetMarshall } :=
    ⟨WF.empty, rfl, rfl, rfl, rfl, fun i => by simp [OidContainer.empty, at?]⟩
  obtain ⟨services, ec, count, hnew⟩ := BackEnd.registerAndInitService_writes basicProtocolService
    { sourceType := .sourceRelay, backendType := .targetMarshall }
  obtain ⟨e, -, -, hname, hinit, -, heq⟩ := hempty.register_fresh (s := basicProtocolService)
    (by decide) (by decide) fun i e he => by simp [OidContainer.empty, at?] at he
  rw [if_neg (show ¬(basicProtocolService.init {}).isError = true by decide)] at heq
  refine ⟨⟨_, rfl, BackEnd.registered_new _ _⟩, fun i x hx => .inl ?_, services, ec, count, ?_⟩
  · have hx' : (OidContainer.empty.placed e).at? i = some x := by
      rw [← hx]
      simp only [init, BackEnd.new, heq]
    rw [at?_placed hinit] at hx'
    split at hx'
    · cases hx'
      rw [hname]
      decide
    · simp [OidContainer.empty, at?] at hx'
  · unfold init BackEnd.new
    rw [hnew]
    rfl

/-- The services are registered one after the other. -/
theorem filled_reaches (codec : BasicProtocolCodec) (hn : n ≤ 65534) : ∃ w,
    (backEndMachine codec).Reaches (init .sourceRelay .targetMarshall) w ∧ Filled n w := by
  induction n with
  | zero => exact ⟨_, .refl _, filled_init⟩
  | succ n ih =>
    obtain ⟨w, hreach, hfilled⟩ := ih (by omega)
    refine ⟨_, hreach.trans ⟨_, .step (l := .registerService (numberedService n)) rfl rfl (.done _)⟩,
      hfilled.succ (by omega)⟩

/-- Each of the 65536 ordinals has a service. -/
structure Full (b : BackEnd) : Prop where
  size : b.services.size = 2 ^ 16
  occupiedSize : b.services.occupiedSize = 2 ^ 16
  service : ∀ i < 2 ^ 16, ∃ s, (b.services.at? i).map (·.entry) = some (some s)

/-- **A back end with 65536 services is reachable**: the registration at the last ordinal goes
through. -/
theorem fullRegistry_reaches (codec : BasicProtocolCodec) : ∃ w,
    (backEndMachine codec).Reaches (init .sourceRelay .targetMarshall) w ∧ OnlyRegistry w ∧
      Full w.backEnd := by
  obtain ⟨w, hreach, hfilled⟩ := filled_reaches (n := 65534) codec (Nat.le_refl _)
  obtain ⟨e, hord, hentry, -, hinit, hfresh, heq⟩ := hfilled.register (by omega)
  obtain ⟨acc, hlen, hreg⟩ := hfilled.registered
  have hcount : e.ordinal.toNat = 65535 := by rw [hord, hreg.serviceCount, hlen]
  refine ⟨_, hreach.trans
    ⟨_, .step (l := .registerService (numberedService 65534)) rfl rfl (.done _)⟩,
    hfilled.only.register _, ?_⟩
  rw [setBackEnd_backEnd, heq]
  refine ⟨?_, ?_, fun i hi => ?_⟩
  · show (w.backEnd.services.placed e).size = 2 ^ 16
    rw [size_placed, hcount, hreg.size, hlen]
    rfl
  · show (w.backEnd.services.placed e).occupiedSize = 2 ^ 16
    rw [occupiedSize_placed hreg.wf hinit hfresh, hreg.occupiedSize, hlen]
    rfl
  · show ∃ s, ((w.backEnd.services.placed e).at? i).map (·.entry) = some (some s)
    rw [at?_placed hinit, hcount]
    split
    · exact ⟨_, congrArg some hentry⟩
    · rename_i hne
      have hlt : i < acc.length := by omega
      exact ⟨acc[i], by rw [hreg.entry i, List.getElem?_eq_getElem hlt]; rfl⟩

end RblRpc
