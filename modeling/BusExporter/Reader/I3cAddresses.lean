import BusExporter.Foundation.History
import BusExporter.Reader.I3c

/-!
# Addresses after a failed transfer

A transfer that fails with a transfer error may mean that the bus was reset and
all dynamic addresses are void. Only the retries of a register read look the
address up again. A write, and the last retry, leave the old address in the cache,
where the next call finds it.
-/

namespace BusExporter.I3c

open Foundation

/-! ## What happens on the bus -/

inductive BusEvent where
  /-- A call of the reader begins. -/
  | called
  /-- The address is looked up in sysfs, and found or not. -/
  | resolved (address : Option UInt8)
  /-- A transfer to an address, and how it failed if it did. -/
  | transferred (address : UInt8) (failure : Option I3cErrorKind)
  deriving DecidableEq

/-- A transfer that failed with a transfer error. -/
def BusEvent.isFailure : BusEvent → Bool
  | transferred _ (some .transferError) => true
  | _ => false

/-- The address that a transfer uses. -/
def BusEvent.target : BusEvent → Option UInt8
  | transferred address _ => some address
  | _ => none

/-- The kind of a failure. -/
def failureOf {α : Type} : Except Error α → Option I3cErrorKind
  | .ok _ => none
  | .error e => some (classifyError e)

variable {σ : Type}

/-- A world that keeps a history of the look-ups and transfers, the newest first. -/
def traced (world : I3cWorld σ) : I3cWorld (σ × List BusEvent) where
  writeRead address buf readLen := fun (s, history) =>
    let answer := (world.writeRead address buf readLen).run s
    (answer.1, (answer.2, .transferred address (failureOf answer.1) :: history))
  resolveAddressFromSysfs mode := fun (s, history) =>
    let answer := (world.resolveAddressFromSysfs mode).run s
    (answer.1, (answer.2, .resolved answer.1.toOption :: history))
  sleep duration := fun (s, history) =>
    let answer := (world.sleep duration).run s
    (answer.1, (answer.2, history))

/-- A call of a reader. -/
inductive Operation where
  | readRegister (register : UInt8) (byteCount : ℕ)
  | writeBytes (buf : List UInt8)

/-- Note that a call begins. -/
def noteCall : Session (σ × List BusEvent) Unit :=
  modify fun (reader, s, history) => (reader, s, .called :: history)

def Operation.run (world : I3cWorld σ) : Operation → Session (σ × List BusEvent) Unit
  | readRegister register byteCount => do
    noteCall
    let _ ← readRegisterSync (traced world) register byteCount
  | writeBytes buf => do
    noteCall
    let _ ← I3c.writeBytes (traced world) buf

def runAll (world : I3cWorld σ) : List Operation → Session (σ × List BusEvent) Unit
  | [] => pure ()
  | operation :: operations => do
    operation.run world
    runAll world operations

/-- The history of a sequence of calls on a new reader. -/
def historyOf (world : I3cWorld σ) (busPath : String) (mode : AddressMode) (s : σ)
    (operations : List Operation) : List BusEvent :=
  ((runAll world operations).run (.new busPath mode, (s, []))).2.2.2

/-! ## Fresh addresses -/

/-- Since every failed transfer, the address was looked up. -/
def FreshFor (address : UInt8) (history : List BusEvent) : Prop :=
  ∀ newer failure older, history = newer ++ failure :: older → failure.isFailure = true →
    .resolved (some address) ∈ newer

/-- Every transfer uses an address that was looked up after every earlier failed transfer. -/
def UsesFreshAddresses (history : List BusEvent) : Prop :=
  Throughout (fun event earlier => ∀ address ∈ event.target, FreshFor address earlier) history

/-- The last thing on the bus is a failed transfer. -/
def endsInFailure (history : List BusEvent) : Bool := history.head?.any (·.isFailure)

/-- No call begins right after a failed transfer. -/
def NoCallAfterFailure (history : List BusEvent) : Prop :=
  Throughout (fun event earlier => event = .called → endsInFailure earlier = false) history

theorem freshFor_nil (address : UInt8) : FreshFor address [] := by
  intro newer failure older split
  simp at split

theorem freshFor_cons (address : UInt8) (event : BusEvent) (history : List BusEvent) :
    FreshFor address (event :: history) ↔
      event.isFailure = false ∧ (event = .resolved (some address) ∨ FreshFor address history) := by
  constructor
  · intro fresh
    refine ⟨?_, ?_⟩
    · by_contra failed
      have := fresh [] event history rfl (by simpa using failed)
      simp at this
    · by_cases same : event = .resolved (some address)
      · exact .inl same
      · refine .inr fun newer failure older split failed => ?_
        have found := fresh (event :: newer) failure older (by rw [split]; rfl) failed
        rcases List.mem_cons.mp found with head | tail
        · exact absurd head.symm same
        · exact tail
  · rintro ⟨notFailed, fresh⟩ newer failure older split failed
    rcases List.cons_eq_append_iff.mp split with ⟨-, same⟩ | ⟨rest, rfl, inside⟩
    · rw [List.cons.injEq] at same
      rw [← same.1, failed] at notFailed
      cases notFailed
    · rcases fresh with rfl | fresh
      · simp
      · exact List.mem_cons_of_mem _ (fresh rest failure older inside failed)

instance decidableFreshFor (address : UInt8) :
    (history : List BusEvent) → Decidable (FreshFor address history)
  | [] => .isTrue (freshFor_nil address)
  | event :: history =>
    have := decidableFreshFor address history
    decidable_of_iff _ (freshFor_cons address event history).symm

instance decidableUsesFreshAddresses (history : List BusEvent) :
    Decidable (UsesFreshAddresses history) :=
  decidableThroughout ..

instance decidableNoCallAfterFailure (history : List BusEvent) :
    Decidable (NoCallAfterFailure history) :=
  decidableThroughout ..

theorem not_freshFor_of_endsInFailure {address : UInt8} {history : List BusEvent}
    (ends : endsInFailure history = true) : ¬ FreshFor address history := by
  cases history with
  | nil => cases ends
  | cons event history =>
    rw [freshFor_cons]
    rintro ⟨notFailed, -⟩
    rw [endsInFailure, List.head?_cons, Option.any_some, notFailed] at ends
    cases ends

/-! ## States of a reader and its history -/

/-- A reader, the outside world, and the history. -/
abbrev Traced (σ : Type) := I3cMetricReader × (σ × List BusEvent)

def Traced.history (st : Traced σ) : List BusEvent := st.2.2

/-- The address is not static, and so far the history is as it should be. -/
structure Clean (st : Traced σ) : Prop where
  dynamic : st.1.addressMode.isStatic = false
  fresh : UsesFreshAddresses st.history
  calls : NoCallAfterFailure st.history

/-- The cached address, if there is one, can be used. -/
structure Ready (st : Traced σ) : Prop extends Clean st where
  cached : ∀ address, st.1.resolvedAddress = some address → FreshFor address st.history

/-- What a call leaves behind: a reader that is ready, or one whose last transfer failed and
whose cached address is the one that it failed with. -/
def Settled (st : Traced σ) : Prop :=
  (Ready st ∧ endsInFailure st.history = false) ∨
    (Clean st ∧ endsInFailure st.history = true ∧ st.1.resolvedAddress.isSome)

/-- A call begins right after a failed transfer, with the address that failed in the cache. -/
def Stale (st : Traced σ) : Prop :=
  ¬ NoCallAfterFailure st.history ∧
    ∃ address, st.1.resolvedAddress = some address ∧ ¬ FreshFor address st.history

/-- An old address was used, after a call right after a failed transfer. -/
def Broken (history : List BusEvent) : Prop :=
  ¬ UsesFreshAddresses history ∧ ¬ NoCallAfterFailure history

theorem Broken.cons {history : List BusEvent} (broken : Broken history) (event : BusEvent) :
    Broken (event :: history) :=
  ⟨fun fresh => broken.1 ((throughout_cons ..).mp fresh).2,
    fun calls => broken.2 ((throughout_cons ..).mp calls).2⟩

section Specs

variable {world : I3cWorld σ}

theorem ensures_inWorld {τ α : Type} {m : StateM τ α} {pre : I3cMetricReader × τ → Prop}
    {P : α → I3cMetricReader × τ → Prop}
    (holds : ∀ reader s, pre (reader, s) → P (m.run s).1 (reader, (m.run s).2)) :
    Ensures pre (inWorld m) P :=
  fun st pres => holds st.1 st.2 pres

/-- A look-up of a reader that is ready ends with a reader that is ready, and with the
address in its cache. -/
theorem resolveAddress_spec :
    Ensures Ready (resolveAddress (traced world)) fun result st =>
      (Ready st ∧ endsInFailure st.history = false) ∧
        ∀ address, result = .ok address → st.1.resolvedAddress = some address := by
  refine Ensures.get.bind fun before => ?_
  simp only
  cases cached : before.1.resolvedAddress with
  | some addr =>
    refine .pure ?_
    rintro _ ⟨rfl, ready⟩
    refine ⟨⟨ready, ?_⟩, ?_⟩
    · -- A cached address that is fresh has not just failed.
      by_contra ends
      exact not_freshFor_of_endsInFailure (by simpa using ends) (ready.cached addr cached)
    · rintro _ ⟨⟩
      exact cached
  | none =>
    -- The look-up is the newest event on the bus, and no failure is.
    have looked : Ensures (fun st => before = st ∧ Ready st)
        (inWorld ((traced world).resolveAddressFromSysfs before.1.addressMode))
        fun result st => Clean st ∧ st.1.resolvedAddress = none ∧
          ∃ earlier, st.history = .resolved result.toOption :: earlier := by
      refine ensures_inWorld ?_
      rintro reader ⟨s, history⟩ ⟨rfl, ready⟩
      refine ⟨⟨ready.dynamic, ?_, ?_⟩, cached, history, rfl⟩
      · exact (throughout_cons ..).mpr ⟨fun _ used => (nomatch used), ready.fresh⟩
      · exact (throughout_cons ..).mpr ⟨fun same => (nomatch same), ready.calls⟩
    refine looked.bind fun result => ?_
    cases result with
    | error e =>
      refine .pure ?_
      rintro st ⟨clean, empty, earlier, newest⟩
      refine ⟨⟨⟨clean, fun address cached => ?_⟩, by rw [newest]; rfl⟩,
        fun _ same => (nomatch same)⟩
      rw [empty] at cached
      cases cached
    | ok addr =>
      refine (Ensures.modify (R := fun _ st => (Ready st ∧ endsInFailure st.history = false) ∧
        st.1.resolvedAddress = some addr) ?_).bind fun _ => .pure ?_
      · rintro ⟨reader, s, history⟩ ⟨clean, empty, earlier, newest⟩
        refine ⟨⟨⟨⟨clean.dynamic, clean.fresh, clean.calls⟩, ?_⟩, ?_⟩, rfl⟩
        · rintro _ ⟨⟩
          change FreshFor addr history
          change history = _ at newest
          rw [newest, freshFor_cons]
          exact ⟨rfl, .inl rfl⟩
        · change history = _ at newest
          change endsInFailure history = false
          rw [newest]
          rfl
      · rintro st ⟨ready, same⟩
        refine ⟨ready, ?_⟩
        rintro _ ⟨⟩
        exact same

/-- A transfer to the cached address of a reader that is ready. -/
theorem transfer_spec (address : UInt8) (buf : List UInt8) (readLen : ℕ) :
    Ensures (fun st => Ready st ∧ st.1.resolvedAddress = some address)
      (inWorld ((traced world).writeRead address buf readLen)) fun _ st => Settled st := by
  refine ensures_inWorld ?_
  rintro reader ⟨s, history⟩ ⟨ready, cached⟩
  -- The address may be used, so the transfer does no harm, whatever comes of it.
  have usable : FreshFor address history := ready.cached address cached
  have clean : Clean (σ := σ)
      (reader, ((traced world).writeRead address buf readLen).run (s, history) |>.2) := by
    refine ⟨ready.dynamic, ?_, ?_⟩
    · refine (throughout_cons ..).mpr ⟨?_, ready.fresh⟩
      rintro _ ⟨⟩
      exact usable
    · exact (throughout_cons ..).mpr ⟨fun same => (nomatch same), ready.calls⟩
  cases failed : endsInFailure
      (.transferred address (failureOf ((world.writeRead address buf readLen).run s).1) ::
        history) with
  | true => exact .inr ⟨clean, failed, by rw [cached]; rfl⟩
  | false =>
    refine .inl ⟨⟨clean, fun address' cached' => ?_⟩, failed⟩
    obtain rfl : address = address' := Option.some_inj.mp (cached.symm.trans cached')
    exact (freshFor_cons ..).mpr ⟨by simpa [endsInFailure] using failed, .inr usable⟩

/-! ## The operations -/

/-- What a read needs from the look-up, the transfer and the retries. -/
theorem readRegisterSync_ensures {pre post : Traced σ → Prop} {found : UInt8 → Traced σ → Prop}
    (register : UInt8) (byteCount : ℕ)
    (resolve : Ensures pre (resolveAddress (traced world)) fun result st =>
      match result with
      | .ok address => found address st
      | .error _ => post st)
    (transfer : ∀ address buf readLen, Ensures (found address)
      (inWorld ((traced world).writeRead address buf readLen)) fun _ st => post st)
    (retries : ∀ err backoffs, Ensures post (retry (traced world) register byteCount err backoffs)
      fun _ st => post st) :
    Ensures pre (readRegisterSync (traced world) register byteCount) fun _ st => post st := by
  refine resolve.bind fun result => ?_
  cases result with
  | error e => exact .pure fun _ holds => holds
  | ok address =>
    refine (transfer address _ _).bind fun response => ?_
    cases response with
    | ok data => exact .pure fun _ holds => holds
    | error err =>
      simp only
      cases classifyError err with
      | other => exact .pure fun _ holds => holds
      | transferError =>
        refine Ensures.get.bind fun before => ?_
        refine ((retries err backoffs).strengthen fun _ holds => holds.2).bind fun _ => ?_
        exact .pure fun _ holds => holds

/-- What a write needs from the look-up and the transfer. -/
theorem writeBytes_ensures {pre post : Traced σ → Prop} {found : UInt8 → Traced σ → Prop}
    (buf : List UInt8)
    (resolve : Ensures pre (resolveAddress (traced world)) fun result st =>
      match result with
      | .ok address => found address st
      | .error _ => post st)
    (transfer : ∀ address buf readLen, Ensures (found address)
      (inWorld ((traced world).writeRead address buf readLen)) fun _ st => post st) :
    Ensures pre (writeBytes (traced world) buf) fun _ st => post st := by
  refine resolve.bind fun result => ?_
  cases result with
  | error e => exact .pure fun _ holds => holds
  | ok address => exact (transfer address _ _).bind fun _ => .pure fun _ holds => holds

/-! ### A reader that is ready -/

theorem resolveAddress_ready :
    Ensures Ready (resolveAddress (traced world)) fun result st =>
      match result with
      | .ok address => Ready st ∧ st.1.resolvedAddress = some address
      | .error _ => Settled st := by
  refine resolveAddress_spec.mono ?_
  rintro (e | address) st ⟨ready, cached⟩
  · exact .inl ready
  · exact ⟨ready.1, cached address rfl⟩

theorem Settled.clean {st : Traced σ} (settled : Settled st) : Clean st := by
  rcases settled with ⟨ready, -⟩ | ⟨clean, -⟩
  · exact ready.toClean
  · exact clean

/-- Without a cached address, a reader is ready. -/
theorem invalidateAddress_spec :
    Ensures Settled (invalidateAddress : Session (σ × List BusEvent) Unit)
      fun _ st => Ready st := by
  refine .modify ?_
  rintro ⟨reader, s, history⟩ settled
  have dynamic : reader.addressMode.isStatic = false := settled.clean.dynamic
  simp only
  rw [dynamic]
  refine ⟨⟨dynamic, settled.clean.fresh, settled.clean.calls⟩, fun _ cached => ?_⟩
  cases cached

/-- A wait changes neither the reader nor the history. -/
theorem sleep_spec (duration : Duration) :
    Ensures (σ := Traced σ) Settled (inWorld ((traced world).sleep duration))
      fun _ st => Settled st := by
  refine ensures_inWorld ?_
  rintro reader ⟨s, history⟩
    (⟨⟨⟨dynamic, fresh, calls⟩, cached⟩, ends⟩ | ⟨⟨dynamic, fresh, calls⟩, ends, cached⟩)
  · exact .inl ⟨⟨⟨dynamic, fresh, calls⟩, cached⟩, ends⟩
  · exact .inr ⟨⟨dynamic, fresh, calls⟩, ends, cached⟩

theorem retry_settled (register : UInt8) (byteCount : ℕ) (lastErr : Error)
    (backoffs : List Duration) :
    Ensures Settled (retry (traced world) register byteCount lastErr backoffs)
      fun _ st => Settled st := by
  induction backoffs generalizing lastErr with
  | nil => exact .pure fun _ settled => settled
  | cons backoff backoffs ih =>
    refine (sleep_spec backoff).bind fun _ => invalidateAddress_spec.bind fun _ => ?_
    refine resolveAddress_ready.bind fun result => ?_
    cases result with
    | error e => exact ih e
    | ok newAddr =>
      refine (transfer_spec newAddr _ _).bind fun response => ?_
      cases response with
      | error e => exact ih e
      | ok data => exact .pure fun _ settled => settled

/-! ### A reader with a stale address -/

theorem resolveAddress_stale :
    Ensures Stale (resolveAddress (traced world)) fun result st =>
      match result with
      | .ok address => ¬ NoCallAfterFailure st.history ∧ ¬ FreshFor address st.history
      | .error _ => Broken st.history := by
  refine Ensures.get.bind fun before => ?_
  simp only
  cases cached : before.1.resolvedAddress with
  | some addr =>
    refine .pure ?_
    rintro _ ⟨rfl, spoiled, address, same, old⟩
    obtain rfl : addr = address := Option.some_inj.mp (cached.symm.trans same)
    exact ⟨spoiled, old⟩
  | none =>
    -- A stale address is cached, so there is no look-up.
    rintro _ ⟨rfl, -, address, same, -⟩
    rw [cached] at same
    cases same

theorem transfer_stale (address : UInt8) (buf : List UInt8) (readLen : ℕ) :
    Ensures (fun st : Traced σ => ¬ NoCallAfterFailure st.history ∧ ¬ FreshFor address st.history)
      (inWorld ((traced world).writeRead address buf readLen)) fun _ st => Broken st.history := by
  refine ensures_inWorld ?_
  rintro reader ⟨s, history⟩ ⟨spoiled, old⟩
  refine ⟨fun fresh => ?_, fun calls => ?_⟩
  · exact old (((throughout_cons ..).mp fresh).1 address rfl)
  · exact spoiled ((throughout_cons ..).mp calls).2

/-! ### A history that is broken stays so -/

/-- The computation leaves a broken history broken. -/
def KeepsBroken {α : Type} (m : Session (σ × List BusEvent) α) : Prop :=
  Ensures (fun st => Broken (Traced.history st)) m fun _ st => Broken (Traced.history st)

theorem resolveAddress_broken :
    Ensures (fun st => Broken (Traced.history st)) (resolveAddress (traced world)) fun result st =>
      match result with
      | .ok _ => Broken (Traced.history st)
      | .error _ => Broken (Traced.history st) := by
  refine Ensures.get.bind fun before => ?_
  simp only
  cases before.1.resolvedAddress with
  | some addr => exact .pure fun _ broken => broken.2
  | none =>
    have looked : KeepsBroken
        (inWorld ((traced world).resolveAddressFromSysfs before.1.addressMode)) :=
      ensures_inWorld fun _ _ broken => broken.cons _
    refine (looked.strengthen fun _ broken => broken.2).bind fun result => ?_
    cases result with
    | error e => exact .pure fun _ broken => broken
    | ok addr =>
      have cached : KeepsBroken (modify fun (reader, s) =>
          ({ reader with resolvedAddress := some addr }, s) : Session (σ × List BusEvent) _) :=
        .modify fun _ broken => broken
      exact cached.bind fun _ => .pure fun _ broken => broken

theorem transfer_broken (address : UInt8) (buf : List UInt8) (readLen : ℕ) :
    KeepsBroken (inWorld ((traced world).writeRead address buf readLen)) :=
  ensures_inWorld fun _ _ broken => broken.cons _

theorem invalidateAddress_broken :
    KeepsBroken (invalidateAddress : Session (σ × List BusEvent) Unit) := by
  refine .modify fun st broken => ?_
  simp only
  split
  · exact broken
  · exact broken

theorem retry_broken (register : UInt8) (byteCount : ℕ) (lastErr : Error)
    (backoffs : List Duration) :
    KeepsBroken (retry (traced world) register byteCount lastErr backoffs) := by
  induction backoffs generalizing lastErr with
  | nil => exact .pure fun _ broken => broken
  | cons backoff backoffs ih =>
    have slept : KeepsBroken (inWorld ((traced world).sleep backoff)) :=
      ensures_inWorld fun _ _ broken => broken
    refine slept.bind fun _ => invalidateAddress_broken.bind fun _ => ?_
    refine resolveAddress_broken.bind fun result => ?_
    cases result with
    | error e => exact ih e
    | ok newAddr =>
      refine (transfer_broken newAddr _ _).bind fun response => ?_
      cases response with
      | error e => exact ih e
      | ok data => exact .pure fun _ broken => broken

/-! ### Calls -/

/-- After each call the reader has settled, or the history is broken. -/
def SettledOrBroken (st : Traced σ) : Prop := Settled st ∨ Broken st.history

/-- What a call finds when it begins. -/
theorem noteCall_spec :
    Ensures SettledOrBroken (noteCall : Session (σ × List BusEvent) Unit) fun _ st =>
      Ready st ∨ Stale st ∨ Broken st.history := by
  refine .modify ?_
  rintro ⟨reader, s, history⟩ ((⟨ready, ends⟩ | ⟨clean, ends, cached⟩) | broken)
  · refine .inl ⟨⟨ready.dynamic, ?_, ?_⟩, fun address cached => ?_⟩
    · exact (throughout_cons ..).mpr ⟨fun _ used => (nomatch used), ready.fresh⟩
    · exact (throughout_cons ..).mpr ⟨fun _ => ends, ready.calls⟩
    · exact (freshFor_cons ..).mpr ⟨rfl, .inr (ready.cached address cached)⟩
  · obtain ⟨address, cached⟩ := Option.isSome_iff_exists.mp cached
    refine .inr (.inl ⟨fun calls => ?_, address, cached, fun fresh => ?_⟩)
    · have unfailed := ((throughout_cons ..).mp calls).1 rfl
      cases ends.symm.trans unfailed
    · rcases ((freshFor_cons ..).mp fresh).2 with same | fresh
      · cases same
      · exact not_freshFor_of_endsInFailure ends fresh
  · exact .inr (.inr (broken.cons _))

theorem Operation.run_spec (operation : Operation) :
    Ensures SettledOrBroken (operation.run world) fun _ st => SettledOrBroken st := by
  cases operation with
  | readRegister register byteCount =>
    have reads : Ensures (fun st : Traced σ => Ready st ∨ Stale st ∨ Broken st.history)
        (readRegisterSync (traced world) register byteCount) fun _ st => SettledOrBroken st :=
      .or ((readRegisterSync_ensures register byteCount resolveAddress_ready transfer_spec
          (retry_settled register byteCount)).mono fun _ _ => .inl)
        (.or ((readRegisterSync_ensures register byteCount resolveAddress_stale transfer_stale
            (retry_broken register byteCount)).mono fun _ _ => .inr)
          ((readRegisterSync_ensures register byteCount resolveAddress_broken transfer_broken
            (retry_broken register byteCount)).mono fun _ _ => .inr))
    exact noteCall_spec.bind fun _ => reads.bind fun _ => .pure fun _ holds => holds
  | writeBytes buf =>
    have writes : Ensures (fun st : Traced σ => Ready st ∨ Stale st ∨ Broken st.history)
        (I3c.writeBytes (traced world) buf) fun _ st => SettledOrBroken st :=
      .or ((writeBytes_ensures buf resolveAddress_ready transfer_spec).mono fun _ _ => .inl)
        (.or ((writeBytes_ensures buf resolveAddress_stale transfer_stale).mono fun _ _ => .inr)
          ((writeBytes_ensures buf resolveAddress_broken transfer_broken).mono fun _ _ => .inr))
    exact noteCall_spec.bind fun _ => writes.bind fun _ => .pure fun _ holds => holds

/-- By induction on the calls. -/
theorem runAll_spec (operations : List Operation) :
    Ensures SettledOrBroken (runAll world operations) fun _ st => SettledOrBroken st := by
  induction operations with
  | nil => exact .pure fun _ holds => holds
  | cons operation operations ih => exact (operation.run_spec).bind fun _ => ih

end Specs

theorem new_resolvedAddress {busPath : String} {mode : AddressMode}
    (dynamic : mode.isStatic = false) :
    (I3cMetricReader.new busPath mode).resolvedAddress = none := by
  cases mode with
  | static address => cases dynamic
  | pid pid => rfl
  | deviceClass deviceClass instanceIndex => rfl

/-- All transfers of a reader with a dynamic address use fresh addresses if and only if no call
begins when the last thing that happened on the bus is a failed transfer. -/
theorem usesFreshAddresses_iff (world : I3cWorld σ) (busPath : String) (mode : AddressMode)
    (dynamic : mode.isStatic = false) (s : σ) (operations : List Operation) :
    UsesFreshAddresses (historyOf world busPath mode s operations) ↔
      NoCallAfterFailure (historyOf world busPath mode s operations) := by
  have start : SettledOrBroken (σ := σ) (.new busPath mode, (s, [])) := by
    refine .inl (.inl ⟨⟨⟨dynamic, throughout_nil _, throughout_nil _⟩, fun _ cached => ?_⟩, rfl⟩)
    rw [new_resolvedAddress dynamic] at cached
    cases cached
  have runs : Ensures SettledOrBroken (runAll world operations) fun _ st => SettledOrBroken st :=
    runAll_spec operations
  -- A settled run meets both conditions, and a broken one neither of them.
  rcases runs _ start with settled | broken
  · exact ⟨fun _ => settled.clean.calls, fun _ => settled.clean.fresh⟩
  · exact ⟨fun fresh => absurd fresh broken.1, fun calls => absurd calls broken.2⟩

/-- A device at an address that sysfs reports, which never acknowledges. -/
def nackingWorld : I3cWorld Unit where
  writeRead _ _ _ := pure (.error (.msg "NACK"))
  resolveAddressFromSysfs _ := pure (.ok 0x10)
  sleep _ := pure ()

theorem usesFreshAddresses_iff_one_write :
    UsesFreshAddresses
        (historyOf nackingWorld "/dev/i3c-0" (.pid "0x1") () [.writeBytes [0x20, 0x01]]) ↔
      NoCallAfterFailure
        (historyOf nackingWorld "/dev/i3c-0" (.pid "0x1") () [.writeBytes [0x20, 0x01]]) :=
  usesFreshAddresses_iff nackingWorld "/dev/i3c-0" (.pid "0x1") rfl () _

/-- After a write that is not acknowledged, the next read uses the old address. -/
theorem stale_address_after_write :
    ¬ ∀ (mode : AddressMode), mode.isStatic = false → ∀ operations : List Operation,
      UsesFreshAddresses (historyOf nackingWorld "/dev/i3c-0" mode () operations) := by
  intro claimed
  have fresh := claimed (.pid "0x1") rfl [.writeBytes [0x20, 0x01], .readRegister 0xFA 2]
  revert fresh
  -- The write fails and leaves 0x10 in the cache, where the read finds it.
  decide +kernel

end BusExporter.I3c
