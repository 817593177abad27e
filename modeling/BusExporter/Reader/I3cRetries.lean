import BusExporter.Reader.I3c

/-!
# Retries of a register read

A register read is a first attempt and at most three further ones. An attempt
resolves the address and makes a transfer, and either may fail. All of it is read
off the record of what the reader asks of the outside world.
-/

namespace BusExporter.I3c

open Foundation

/-! ## The record of a read -/

inductive ReadEvent where
  | waited (duration : Duration)
  /-- The address is looked up in sysfs. -/
  | lookedUp (result : Except Error UInt8)
  | transferred (address : UInt8) (buf : List UInt8) (readLen : ℕ)
    (result : Except Error (List UInt8))

def ReadEvent.isTransfer : ReadEvent → Bool
  | transferred .. => true
  | _ => false

variable {σ : Type}

/-- A world that keeps a record, the oldest event first. -/
def recorded (world : I3cWorld σ) : I3cWorld (σ × List ReadEvent) where
  writeRead address buf readLen := fun (s, record) =>
    let answer := (world.writeRead address buf readLen).run s
    (answer.1, (answer.2, record ++ [.transferred address buf readLen answer.1]))
  resolveAddressFromSysfs mode := fun (s, record) =>
    let answer := (world.resolveAddressFromSysfs mode).run s
    (answer.1, (answer.2, record ++ [.lookedUp answer.1]))
  sleep duration := fun (s, record) =>
    let answer := (world.sleep duration).run s
    (answer.1, (answer.2, record ++ [.waited duration]))

/-- How an attempt goes: the address is not resolved, or there is a transfer. -/
inductive Attempt where
  | unresolved (e : Error)
  | transferred (address : UInt8) (result : Except Error (List UInt8))

namespace Attempt

/-- The resolved address. -/
def address : Attempt → Option UInt8
  | unresolved _ => none
  | transferred address _ => some address

def resolution : Attempt → Except Error UInt8
  | unresolved e => .error e
  | transferred address _ => .ok address

def result : Attempt → Except Error (List UInt8)
  | unresolved e => .error e
  | transferred _ result => result

def Succeeds (a : Attempt) : Prop := ∃ bytes, a.result = .ok bytes

/-- A transfer that fails with a transfer error. -/
def Retriable : Attempt → Prop
  | transferred _ (.error e) => classifyError e = .transferError
  | _ => False

variable (register : UInt8) (byteCount : ℕ)

def transfers : Attempt → List ReadEvent
  | unresolved _ => []
  | transferred address result => [.transferred address [register] byteCount result]

/-- The events of an attempt; a cached address is not looked up. -/
def events (looksUp : Bool) (a : Attempt) : List ReadEvent :=
  (if looksUp then [.lookedUp a.resolution] else []) ++ a.transfers register byteCount

/-- The events of further attempts, each after its wait; only a static address is still cached. -/
def furtherEvents (isStatic : Bool) (waits : List Duration) (further : List Attempt) :
    List ReadEvent :=
  (waits.zip further).flatMap fun (wait, a) =>
    .waited wait :: a.events register byteCount (!isStatic)

end Attempt

/-- Every transfer is to the address that was resolved last. -/
def ToLastResolved : Option UInt8 → List ReadEvent → Prop
  | _, [] => True
  | known, .waited _ :: record => ToLastResolved known record
  | _, .lookedUp result :: record => ToLastResolved result.toOption record
  | known, .transferred address _ _ _ :: record =>
    known = some address ∧ ToLastResolved known record

/-- What a register read does, as a first attempt and further ones. -/
structure RetriesCorrectly (register : UInt8) (byteCount : ℕ) (reader : I3cMetricReader)
    (first : Attempt) (further : List Attempt) (record : List ReadEvent)
    (result : Except Error (List UInt8)) (reader' : I3cMetricReader) : Prop where
  happens : record = first.events register byteCount reader.resolvedAddress.isNone ++
    Attempt.furtherEvents register byteCount reader.addressMode.isStatic backoffs further
  retries : further ≠ [] ↔ first.Retriable
  atMost : further.length ≤ backoffs.length
  stops : ∀ a ∈ (first :: further).dropLast, ¬ a.Succeeds
  goesOn : first.Retriable → further.length < backoffs.length → ∃ a ∈ further, a.Succeeds
  returns : ∀ bytes, result = .ok bytes ↔ ∃ a ∈ first :: further, a.result = .ok bytes
  fails : (∃ e, result = .error e) ↔ ∀ a ∈ first :: further, ¬ a.Succeeds
  noTransfer : first.address = none → record.countP (·.isTransfer) = 0
  oneTransfer : first.address ≠ none → ¬ first.Retriable → record.countP (·.isTransfer) = 1
  fourTransfers : record.countP (·.isTransfer) ≤ 4
  addresses : ToLastResolved reader.resolvedAddress record
  cached : ∀ address, reader.resolvedAddress = some address → first.address = some address
  /-- An attempt is without an address only because a look-up of its own has failed. -/
  unresolved : ∀ e, .unresolved e ∈ first :: further → .lookedUp (.error e) ∈ record
  mode : reader'.addressMode = reader.addressMode
  static : reader.addressMode.isStatic = true →
    (∀ a ∈ further, a.address = first.address) ∧ reader'.resolvedAddress = first.address ∧
      ∀ address, reader.resolvedAddress = some address → reader'.resolvedAddress = some address

/-! ## One attempt -/

section Attempts

variable (world : I3cWorld σ) (register : UInt8) (byteCount : ℕ)

/-- Resolve the address and make a transfer. -/
def attemptOnce : Session σ Attempt := do
  match ← resolveAddress world with
  | .error e => return .unresolved e
  | .ok address =>
    let result ← inWorld (world.writeRead address [register] byteCount)
    return .transferred address result

/-- A further attempt: wait, forget the address unless it is static, and attempt again. -/
def attemptAgain (backoff : Duration) : Session σ Attempt := do
  inWorld (world.sleep backoff)
  invalidateAddress
  attemptOnce world register byteCount

theorem retry_cons (lastErr : Error) (backoff : Duration) (waits : List Duration) :
    retry world register byteCount lastErr (backoff :: waits) = do
      let a ← attemptAgain world register byteCount backoff
      match a.result with
      | .error e => retry world register byteCount e waits
      | .ok data => return .ok data := by
  rw [retry, attemptAgain, attemptOnce]
  simp only [bind_assoc]
  -- Both sides wait, forget the address and resolve it again; the result decides the rest.
  refine bind_congr fun _ => bind_congr fun _ => bind_congr fun resolved => ?_
  cases resolved with
  | error e => rfl
  | ok address =>
    simp only [bind_assoc, pure_bind]
    refine bind_congr fun result => ?_
    cases result <;> rfl

/-- What a read does after its first attempt. -/
def afterFirst : Attempt → Session σ (Except Error (List UInt8))
  | .unresolved e => return .error e
  | .transferred _ (.ok data) => return .ok data
  | .transferred _ (.error err) =>
    match classifyError err with
    | .other => return .error (err.context "I3C read failed (non-retriable)")
    | .transferError => do
      let busPath := (← get).1.busPath
      let result ← retry world register byteCount err backoffs
      return withContext result s!"I3C read failed after {backoffs.length} retries on {busPath}"

theorem readRegisterSync_eq :
    readRegisterSync world register byteCount =
      attemptOnce world register byteCount >>= afterFirst world register byteCount := by
  rw [readRegisterSync, attemptOnce]
  simp only [bind_assoc]
  -- The source nests the transfer in the branch of a resolved address.
  refine bind_congr fun resolved => ?_
  cases resolved with
  | error e => rfl
  | ok address =>
    simp only [bind_assoc, pure_bind]
    refine bind_congr fun result => ?_
    cases result <;> rfl

/-- A first attempt that is not retriable is the whole read. -/
theorem afterFirst_run_of_final {a : Attempt} (final : ¬ a.Retriable)
    (after : I3cMetricReader × σ) :
    ∃ result, (afterFirst world register byteCount a).run after = (result, after) ∧
      ∀ bytes, result = .ok bytes ↔ a.result = .ok bytes := by
  cases a with
  | unresolved e => exact ⟨_, rfl, fun _ => .rfl⟩
  | transferred address result =>
    cases result with
    | ok data => exact ⟨_, rfl, fun _ => .rfl⟩
    | error err =>
      -- A failed transfer that is not retriable was classified as another error.
      have kind : classifyError err = .other := by
        cases kind : classifyError err with
        | other => rfl
        | transferError => exact absurd kind final
      refine ⟨.error (err.context "I3C read failed (non-retriable)"), ?_, by simp [Attempt.result]⟩
      simp only [afterFirst, kind]
      rfl

/-- After a first attempt that is retriable, the read is its retries. -/
theorem afterFirst_run_of_retriable {address : UInt8} {err : Error}
    (retriable : (Attempt.transferred address (.error err)).Retriable)
    (after : I3cMetricReader × σ) :
    ∃ message, (afterFirst world register byteCount (.transferred address (.error err))).run after =
      (withContext ((retry world register byteCount err backoffs).run after).1 message,
        ((retry world register byteCount err backoffs).run after).2) := by
  have kind : classifyError err = .transferError := retriable
  refine ⟨s!"I3C read failed after {backoffs.length} retries on {after.1.busPath}", ?_⟩
  simp only [afterFirst, kind]
  rfl

/-- A session of a reader in a world that keeps a record. -/
abbrev Recorded (σ : Type) := I3cMetricReader × σ × List ReadEvent

/-- An attempt that is made after some record. -/
structure Attempted (looksUp : Bool) (before : Recorded σ) (a : Attempt) (after : Recorded σ) :
    Prop where
  record : after.2.2 = before.2.2 ++ a.events register byteCount looksUp
  reader : after.1 = { before.1 with resolvedAddress := a.address }
  cached : ∀ address, before.1.resolvedAddress = some address → a.address = some address

/-- Without a cached address, the look-up is recorded and what it finds is cached. -/
theorem resolveAddress_run_none (busPath : String) (mode : AddressMode) (s : σ)
    (record : List ReadEvent) :
    ∃ s' result, (resolveAddress (recorded world)).run (⟨busPath, mode, none⟩, s, record) =
      (result, ⟨busPath, mode, result.toOption⟩, s', record ++ [.lookedUp result]) := by
  obtain ⟨⟨result, s'⟩, looked⟩ : ∃ answer, (world.resolveAddressFromSysfs mode).run s = answer :=
    ⟨_, rfl⟩
  -- The recorded world answers as the world does and notes the answer.
  have inner : ((recorded world).resolveAddressFromSysfs mode).run (s, record) =
      (result, s', record ++ [.lookedUp result]) := by
    show (((world.resolveAddressFromSysfs mode).run s).1,
      ((world.resolveAddressFromSysfs mode).run s).2,
      record ++ [.lookedUp ((world.resolveAddressFromSysfs mode).run s).1]) = _
    rw [looked]
  refine ⟨s', result, ?_⟩
  show (match (((recorded world).resolveAddressFromSysfs mode).run (s, record)).1 with
    | .error e => _
    | .ok address => _ : Session _ _)
      (_, (((recorded world).resolveAddressFromSysfs mode).run (s, record)).2) = _
  rw [inner]
  cases result <;> rfl

theorem attemptOnce_spec (before : Recorded σ) :
    Attempted register byteCount before.1.resolvedAddress.isNone before
      ((attemptOnce (recorded world) register byteCount).run before).1
      ((attemptOnce (recorded world) register byteCount).run before).2 := by
  obtain ⟨⟨busPath, mode, cached⟩, s, record⟩ := before
  -- Without a look-up there is only the transfer, to the cached address.
  cases cached with
  | some address => exact ⟨rfl, rfl, fun _ same => same⟩
  | none =>
    obtain ⟨s', result, resolved⟩ := resolveAddress_run_none world busPath mode s record
    have split : (attemptOnce (recorded world) register byteCount).run
        (⟨busPath, mode, none⟩, s, record) =
          (match result with
          | .error e => (pure (.unresolved e) : Session (σ × List ReadEvent) Attempt)
          | .ok address => do
            let result ← inWorld ((recorded world).writeRead address [register] byteCount)
            return .transferred address result).run
              (⟨busPath, mode, result.toOption⟩, s', record ++ [ReadEvent.lookedUp result]) := by
      rw [attemptOnce, StateT.run_bind, resolved]
      rfl
    rw [split]
    cases result with
    | error e => exact ⟨rfl, rfl, fun _ same => nomatch same⟩
    | ok address =>
      refine ⟨?_, rfl, fun _ same => nomatch same⟩
      exact List.append_assoc ..

/-- After an address was resolved, only a static one is not looked up again. -/
def StaticCached (reader : I3cMetricReader) : Prop :=
  reader.addressMode.isStatic = true → ∃ address, reader.resolvedAddress = some address

/-- A further attempt that is made after some record. -/
structure AttemptedAgain (backoff : Duration) (before : Recorded σ) (a : Attempt)
    (after : Recorded σ) : Prop where
  record : after.2.2 = before.2.2 ++
    .waited backoff :: a.events register byteCount (!before.1.addressMode.isStatic)
  reader : after.1 = { before.1 with resolvedAddress := a.address }
  static : before.1.addressMode.isStatic = true → a.address = before.1.resolvedAddress

theorem attemptAgain_spec (backoff : Duration) (before : Recorded σ)
    (ready : StaticCached before.1) :
    AttemptedAgain register byteCount backoff before
      ((attemptAgain (recorded world) register byteCount backoff).run before).1
      ((attemptAgain (recorded world) register byteCount backoff).run before).2 := by
  obtain ⟨⟨busPath, mode, cached⟩, s, record⟩ := before
  have spec := fun cached => attemptOnce_spec world register byteCount
    (⟨busPath, mode, cached⟩, ((world.sleep backoff).run s).2, record ++ [.waited backoff])
  -- Only the mode decides whether the address is forgotten before the attempt.
  cases mode with
  | static configured =>
    obtain ⟨address, rfl⟩ := ready rfl
    obtain ⟨happened, reader, same⟩ := spec (some address)
    exact ⟨happened.trans (List.append_assoc ..), reader, fun _ => same address rfl⟩
  | pid pid =>
    obtain ⟨happened, reader, -⟩ := spec none
    exact ⟨happened.trans (List.append_assoc ..), reader, fun isStatic => nomatch isStatic⟩
  | deviceClass deviceClass instanceIndex =>
    obtain ⟨happened, reader, -⟩ := spec none
    exact ⟨happened.trans (List.append_assoc ..), reader, fun isStatic => nomatch isStatic⟩

/-! ## The retries -/

/-- Retries that are made after some record and some error. -/
structure Retried (lastErr : Error) (waits : List Duration) (before : Recorded σ)
    (further : List Attempt) (result : Except Error (List UInt8)) (after : Recorded σ) : Prop where
  record : after.2.2 = before.2.2 ++
    Attempt.furtherEvents register byteCount before.1.addressMode.isStatic waits further
  atMost : further.length ≤ waits.length
  stops : ∀ a ∈ further.dropLast, ¬ a.Succeeds
  goesOn : further.length < waits.length → ∃ a ∈ further, a.Succeeds
  result : result = (further.getLast?.map (·.result)).getD (.error lastErr)
  mode : after.1.addressMode = before.1.addressMode
  static : before.1.addressMode.isStatic = true →
    after.1.resolvedAddress = before.1.resolvedAddress ∧
      ∀ a ∈ further, a.address = before.1.resolvedAddress

/-- A failed attempt before others that go on until a success. -/
theorem stops_cons {a : Attempt} {further : List Attempt} (failed : ¬ a.Succeeds)
    (stops : ∀ a ∈ further.dropLast, ¬ a.Succeeds) :
    ∀ a' ∈ (a :: further).dropLast, ¬ a'.Succeeds := by
  cases further with
  | nil => simp
  | cons next further =>
    rw [List.dropLast_cons_cons, List.forall_mem_cons]
    exact ⟨failed, stops⟩

theorem retry_spec (lastErr : Error) (waits : List Duration) (before : Recorded σ)
    (ready : StaticCached before.1) :
    ∃ further, Retried register byteCount lastErr waits before further
      ((retry (recorded world) register byteCount lastErr waits).run before).1
      ((retry (recorded world) register byteCount lastErr waits).run before).2 := by
  -- The induction is on the waits that are left: one attempt, then the retries after it.
  induction waits generalizing lastErr before with
  | nil =>
    refine ⟨[], (List.append_nil _).symm, le_rfl, by simp, by simp, rfl, rfl, ?_⟩
    exact fun _ => ⟨rfl, by simp⟩
  | cons backoff waits ih =>
    have again := attemptAgain_spec world register byteCount backoff before ready
    obtain ⟨⟨a, between⟩, ran⟩ :
        ∃ attempted, (attemptAgain (recorded world) register byteCount backoff).run before =
          attempted := ⟨_, rfl⟩
    rw [ran] at again
    -- A success ends the retries; an error is the one that the rest starts with.
    have continues : (retry (recorded world) register byteCount lastErr (backoff :: waits)).run
        before = match a.result with
          | .error e => (retry (recorded world) register byteCount e waits).run between
          | .ok data => (.ok data, between) := by
      rw [retry_cons, StateT.run_bind, ran]
      show (match a.result with
        | .error e => retry (recorded world) register byteCount e waits
        | .ok data => pure (.ok data)).run between = _
      cases a.result <;> rfl
    rw [continues]
    have mode : between.1.addressMode = before.1.addressMode := by rw [again.reader]
    have static : before.1.addressMode.isStatic = true →
        between.1.resolvedAddress = before.1.resolvedAddress := by
      intro isStatic
      rw [again.reader]
      exact again.static isStatic
    cases outcome : a.result with
    | ok data =>
      refine ⟨[a], ?_, by simp, by simp, fun _ => ⟨a, by simp, data, outcome⟩, ?_, mode, ?_⟩
      · simpa [Attempt.furtherEvents] using again.record
      · simp [outcome]
      · intro isStatic
        exact ⟨static isStatic, by simpa using again.static isStatic⟩
    | error e =>
      have stillReady : StaticCached between.1 := by
        intro isStatic
        rw [mode] at isStatic
        rw [static isStatic]
        exact ready isStatic
      obtain ⟨further, retried⟩ := ih e between stillReady
      refine ⟨a :: further, ?_, ?_, ?_, ?_, ?_, ?_, ?_⟩
      · rw [retried.record, again.record, mode]
        simp [Attempt.furtherEvents]
      · exact Nat.succ_le_succ retried.atMost
      · exact fun a' mem => stops_cons (by simp [Attempt.Succeeds, outcome]) retried.stops a' mem
      · intro fewer
        obtain ⟨a', mem, succeeds⟩ := retried.goesOn (Nat.lt_of_succ_lt_succ fewer)
        exact ⟨a', List.mem_cons_of_mem _ mem, succeeds⟩
      · rw [retried.result]
        cases further with
        | nil => simp [outcome]
        | cons a' further =>
          rw [List.getLast?_cons_cons, List.getLast?_cons]
          rfl
      · rw [retried.mode, mode]
      · intro isStatic
        have rest := retried.static (by rw [mode]; exact isStatic)
        rw [static isStatic] at rest
        exact ⟨rest.1, List.forall_mem_cons.mpr ⟨again.static isStatic, rest.2⟩⟩

end Attempts

/-! ## The record as a whole -/

section Record

variable {register : UInt8} {byteCount : ℕ}

/-- The address that was resolved last. -/
def lastResolved : Option UInt8 → List ReadEvent → Option UInt8
  | known, [] => known
  | known, .waited _ :: record => lastResolved known record
  | _, .lookedUp result :: record => lastResolved result.toOption record
  | known, .transferred .. :: record => lastResolved known record

theorem toLastResolved_append (known : Option UInt8) (record later : List ReadEvent) :
    ToLastResolved known (record ++ later) ↔
      ToLastResolved known record ∧ ToLastResolved (lastResolved known record) later := by
  induction record generalizing known with
  | nil => simp [ToLastResolved, lastResolved]
  | cons event record ih =>
    cases event with
    | waited duration => exact ih known
    | lookedUp result => exact ih _
    | transferred address buf readLen result =>
      rw [List.cons_append, ToLastResolved, ToLastResolved, ih, and_assoc]
      rfl

/-- An attempt that looks the address up uses what it finds. -/
theorem toLastResolved_lookup (known : Option UInt8) (a : Attempt) :
    ToLastResolved known (a.events register byteCount true) ∧
      lastResolved known (a.events register byteCount true) = a.address := by
  cases a with
  | unresolved e => exact ⟨trivial, rfl⟩
  | transferred address result => exact ⟨⟨rfl, trivial⟩, rfl⟩

/-- An attempt with a cached address uses that. -/
theorem toLastResolved_cached {address : UInt8} {a : Attempt} (same : a.address = some address) :
    ToLastResolved (some address) (a.events register byteCount false) ∧
      lastResolved (some address) (a.events register byteCount false) = a.address := by
  cases a with
  | unresolved e => cases same
  | transferred used result =>
    cases same
    exact ⟨⟨rfl, trivial⟩, rfl⟩

theorem toLastResolved_further {isStatic : Bool} {known : Option UInt8} {waits : List Duration}
    {further : List Attempt} (static : isStatic = true →
      known ≠ none ∧ ∀ a ∈ further, a.address = known) :
    ToLastResolved known (Attempt.furtherEvents register byteCount isStatic waits further) := by
  induction waits generalizing known further with
  | nil => exact trivial
  | cons wait waits ih =>
    cases further with
    | nil => exact trivial
    | cons a further =>
      show ToLastResolved known (a.events register byteCount (!isStatic) ++
        Attempt.furtherEvents register byteCount isStatic waits further)
      rw [toLastResolved_append]
      -- A static address is never forgotten, any other one is looked up before its transfer.
      cases isStatic with
      | true =>
        obtain ⟨resolved, same⟩ := static rfl
        obtain ⟨address, rfl⟩ := Option.ne_none_iff_exists'.mp resolved
        rw [List.forall_mem_cons] at same
        have used := @toLastResolved_cached register byteCount address a same.1
        refine ⟨used.1, ih fun _ => ?_⟩
        rw [Bool.not_true, used.2, same.1]
        exact ⟨resolved, same.2⟩
      | false =>
        exact ⟨(toLastResolved_lookup known a).1, ih fun isStatic => nomatch isStatic⟩

/-- An attempt makes a transfer if the address is resolved. -/
theorem countP_events (looksUp : Bool) (a : Attempt) :
    (a.events register byteCount looksUp).countP (·.isTransfer) =
      if a.address = none then 0 else 1 := by
  cases looksUp <;> cases a <;> rfl

theorem countP_furtherEvents (isStatic : Bool) (waits : List Duration) (further : List Attempt) :
    (Attempt.furtherEvents register byteCount isStatic waits further).countP (·.isTransfer) ≤
      further.length := by
  induction waits generalizing further with
  | nil => exact Nat.zero_le _
  | cons wait waits ih =>
    cases further with
    | nil => exact le_rfl
    | cons a further =>
      show ((a.events register byteCount (!isStatic) ++
        Attempt.furtherEvents register byteCount isStatic waits further)).countP _ ≤ _
      rw [List.countP_append, countP_events, List.length_cons]
      have rest := ih further
      split <;> omega

/-- Only the last attempt can succeed, so it is the one whose bytes are returned. -/
theorem exists_result_iff_getLast {attempts : List Attempt} (nonempty : attempts ≠ [])
    (stops : ∀ a ∈ attempts.dropLast, ¬ a.Succeeds) (bytes : List UInt8) :
    (∃ a ∈ attempts, a.result = .ok bytes) ↔ (attempts.getLast nonempty).result = .ok bytes := by
  constructor
  · rintro ⟨a, mem, succeeds⟩
    rw [← List.dropLast_append_getLast nonempty, List.mem_append, List.mem_singleton] at mem
    rcases mem with early | rfl
    · exact absurd ⟨bytes, succeeds⟩ (stops a early)
    · exact succeeds
  · exact fun succeeds => ⟨_, List.getLast_mem nonempty, succeeds⟩

end Record

/-! ## Every read -/

/-- What is known of the two parts of a read. -/
structure Parts (register : UInt8) (byteCount : ℕ) (reader : I3cMetricReader) (first : Attempt)
    (further : List Attempt) (record : List ReadEvent) (result : Except Error (List UInt8))
    (reader' : I3cMetricReader) : Prop where
  happens : record = first.events register byteCount reader.resolvedAddress.isNone ++
    Attempt.furtherEvents register byteCount reader.addressMode.isStatic backoffs further
  retries : further ≠ [] ↔ first.Retriable
  atMost : further.length ≤ backoffs.length
  stops : ∀ a ∈ (first :: further).dropLast, ¬ a.Succeeds
  goesOn : first.Retriable → further.length < backoffs.length → ∃ a ∈ further, a.Succeeds
  last : ∀ bytes, result = .ok bytes ↔
    ((first :: further).getLast (by simp)).result = .ok bytes
  cached : ∀ address, reader.resolvedAddress = some address → first.address = some address
  mode : reader'.addressMode = reader.addressMode
  static : reader.addressMode.isStatic = true → reader'.resolvedAddress = first.address ∧
    ∀ a ∈ further, a.address = first.address

section Assembly

variable {register : UInt8} {byteCount : ℕ} {reader reader' : I3cMetricReader} {first : Attempt}
  {further : List Attempt} {record : List ReadEvent} {result : Except Error (List UInt8)}

/-- A retriable attempt made a transfer. -/
theorem Attempt.Retriable.address_ne_none {a : Attempt} (retriable : a.Retriable) :
    a.address ≠ none := by
  cases a with
  | unresolved e => exact absurd retriable id
  | transferred address result => exact Option.some_ne_none address

theorem Attempt.Retriable.eq_transferred {a : Attempt} (retriable : a.Retriable) :
    ∃ address err, a = .transferred address (.error err) := by
  cases a with
  | unresolved e => exact absurd retriable id
  | transferred address result =>
    cases result with
    | ok data => exact absurd retriable id
    | error err => exact ⟨address, err, rfl⟩

/-- The first attempt leaves its own address as the one resolved last. -/
theorem toLastResolved_first
    (cached : ∀ address, reader.resolvedAddress = some address → first.address = some address) :
    ToLastResolved reader.resolvedAddress
        (first.events register byteCount reader.resolvedAddress.isNone) ∧
      lastResolved reader.resolvedAddress
        (first.events register byteCount reader.resolvedAddress.isNone) = first.address := by
  cases known : reader.resolvedAddress with
  | none => exact toLastResolved_lookup none first
  | some address => exact toLastResolved_cached (cached address known)

theorem Parts.no_further
    (parts : Parts register byteCount reader first further record result reader')
    (final : ¬ first.Retriable) : further = [] :=
  not_not.mp fun some_further => final (parts.retries.mp some_further)

theorem Parts.addresses
    (parts : Parts register byteCount reader first further record result reader') :
    ToLastResolved reader.resolvedAddress record := by
  have ofFirst := @toLastResolved_first register byteCount reader first parts.cached
  rw [parts.happens, toLastResolved_append, ofFirst.2]
  refine ⟨ofFirst.1, ?_⟩
  by_cases retriable : first.Retriable
  · exact toLastResolved_further fun isStatic =>
      ⟨retriable.address_ne_none, (parts.static isStatic).2⟩
  · rw [parts.no_further retriable]
    exact trivial

/-- An attempt that looks the address up and has none has recorded the failure. -/
theorem lookedUp_mem_events {e : Error} :
    .lookedUp (.error e) ∈ (Attempt.unresolved e).events register byteCount true :=
  List.mem_cons_self ..

theorem lookedUp_mem_furtherEvents {e : Error} {waits : List Duration}
    (mem : .unresolved e ∈ further) (atMost : further.length ≤ waits.length) :
    .lookedUp (.error e) ∈ Attempt.furtherEvents register byteCount false waits further := by
  induction waits generalizing further with
  | nil =>
    rw [List.length_eq_zero_iff.mp (Nat.le_zero.mp atMost)] at mem
    cases mem
  | cons wait waits ih =>
    cases further with
    | nil => cases mem
    | cons a further =>
      show .lookedUp (.error e) ∈ .waited wait :: a.events register byteCount true ++
        Attempt.furtherEvents register byteCount false waits further
      rcases List.mem_cons.mp mem with rfl | later
      · exact List.mem_append_left _ (List.mem_cons_of_mem _ lookedUp_mem_events)
      · exact List.mem_append_right _ (ih later (Nat.le_of_succ_le_succ atMost))

/-- Neither a cached address nor a static one is missing, so one that is was looked up. -/
theorem Parts.unresolved
    (parts : Parts register byteCount reader first further record result reader') {e : Error}
    (mem : .unresolved e ∈ first :: further) : .lookedUp (.error e) ∈ record := by
  rw [parts.happens]
  rcases List.mem_cons.mp mem with isFirst | inFurther
  · have unknown : reader.resolvedAddress.isNone = true := by
      rw [Option.isNone_iff_eq_none, Option.eq_none_iff_forall_ne_some]
      intro address known
      have resolved := parts.cached address known
      rw [← isFirst] at resolved
      cases resolved
    rw [unknown, ← isFirst]
    exact List.mem_append_left _ lookedUp_mem_events
  · have notStatic : reader.addressMode.isStatic = false := by
      by_contra isStatic
      -- The first attempt was retried, so it had an address, and the further ones have the same.
      have retriable := parts.retries.mp (List.ne_nil_of_mem inFurther)
      have same := (parts.static (Bool.not_eq_false _ ▸ isStatic)).2 _ inFurther
      exact retriable.address_ne_none same.symm
    rw [notStatic]
    exact List.mem_append_right _ (lookedUp_mem_furtherEvents inFurther parts.atMost)

theorem Parts.retriesCorrectly
    (parts : Parts register byteCount reader first further record result reader') :
    RetriesCorrectly register byteCount reader first further record result reader' := by
  -- No attempt but the last can have succeeded.
  have returns : ∀ bytes, result = .ok bytes ↔ ∃ a ∈ first :: further, a.result = .ok bytes :=
    fun bytes => (parts.last bytes).trans (exists_result_iff_getLast _ parts.stops bytes).symm
  -- At most one transfer belongs to each attempt.
  have counted := congrArg (List.countP (·.isTransfer)) parts.happens
  rw [List.countP_append, countP_events] at counted
  refine ⟨parts.happens, parts.retries, parts.atMost, parts.stops, parts.goesOn, returns, ?_, ?_,
    ?_, ?_, parts.addresses, parts.cached, fun _ => parts.unresolved, parts.mode, ?_⟩
  · constructor
    · rintro ⟨e, rfl⟩ a mem ⟨bytes, succeeds⟩
      exact nomatch (returns bytes).mpr ⟨a, mem, succeeds⟩
    · intro allFail
      cases result with
      | error e => exact ⟨e, rfl⟩
      | ok bytes =>
        obtain ⟨a, mem, succeeds⟩ := (returns bytes).mp rfl
        exact absurd ⟨bytes, succeeds⟩ (allFail a mem)
  · intro unresolved
    rw [counted, parts.no_further fun retriable => retriable.address_ne_none unresolved]
    simp [unresolved, Attempt.furtherEvents]
  · intro resolved final
    rw [counted, parts.no_further final]
    simp [resolved, Attempt.furtherEvents]
  · have ofFurther := @countP_furtherEvents register byteCount
      reader.addressMode.isStatic backoffs further
    have atMost := parts.atMost
    have three : backoffs.length = 3 := rfl
    rw [counted]
    split <;> omega
  · intro isStatic
    refine ⟨(parts.static isStatic).2, (parts.static isStatic).1, fun address known => ?_⟩
    rw [(parts.static isStatic).1, parts.cached address known]

/-- A read that ends with its first attempt. -/
theorem parts_of_final {s : σ} {after : Recorded σ}
    (attempted : Attempted register byteCount reader.resolvedAddress.isNone (reader, s, []) first
      after) (final : ¬ first.Retriable)
    (last : ∀ bytes, result = .ok bytes ↔ first.result = .ok bytes) :
    Parts register byteCount reader first [] after.2.2 result after.1 where
  happens := attempted.record.trans (List.append_nil _).symm
  retries := by simp [final]
  atMost := Nat.zero_le _
  stops := by simp
  goesOn retriable := absurd retriable final
  last := last
  cached := attempted.cached
  mode := by rw [attempted.reader]
  static _ := ⟨by rw [attempted.reader], by simp⟩

/-- A read whose first attempt is retried. -/
theorem parts_of_retried {s : σ} {after last : Recorded σ} {err : Error}
    (attempted : Attempted register byteCount reader.resolvedAddress.isNone (reader, s, []) first
      after) (retriable : first.Retriable) (failed : first.result = .error err)
    (retried : Retried register byteCount err backoffs after further result last) :
    Parts register byteCount reader first further last.2.2 result last.1 := by
  have mode : after.1.addressMode = reader.addressMode := by rw [attempted.reader]
  have resolved : after.1.resolvedAddress = first.address := by rw [attempted.reader]
  -- There are waits left, so the retries cannot end before their first attempt.
  have some_further : further ≠ [] := by
    rintro rfl
    obtain ⟨a, mem, -⟩ := retried.goesOn (by decide)
    cases mem
  refine ⟨?_, iff_of_true some_further retriable, retried.atMost, ?_, fun _ => retried.goesOn, ?_,
    attempted.cached, retried.mode.trans mode, ?_⟩
  · rw [retried.record, attempted.record, mode]
    rfl
  · exact stops_cons (by simp [Attempt.Succeeds, failed]) retried.stops
  · intro bytes
    rw [retried.result, List.getLast?_eq_some_getLast some_further,
      List.getLast_cons some_further]
    rfl
  · intro isStatic
    rw [← mode] at isStatic
    obtain ⟨kept, same⟩ := retried.static isStatic
    rw [resolved] at kept same
    exact ⟨kept, same⟩

/-- The context of an error does not matter. -/
theorem Parts.withContext
    (parts : Parts register byteCount reader first further record result reader')
    (message : String) :
    Parts register byteCount reader first further record (withContext result message) reader' := by
  exact { parts with last := fun bytes => withContext_eq_ok.trans (parts.last bytes) }

end Assembly

/-- **Register reads are retried correctly** for every address mode, cached address, and whatever
the look-ups and the device return. -/
theorem readRegisterSync_retriesCorrectly (world : I3cWorld σ) (register : UInt8) (byteCount : ℕ)
    (reader : I3cMetricReader) (s : σ) :
    ∃ first further, RetriesCorrectly register byteCount reader first further
      ((readRegisterSync (recorded world) register byteCount).run (reader, s, [])).2.2.2
      ((readRegisterSync (recorded world) register byteCount).run (reader, s, [])).1
      ((readRegisterSync (recorded world) register byteCount).run (reader, s, [])).2.1 := by
  have attempted := attemptOnce_spec world register byteCount (reader, s, [])
  obtain ⟨⟨first, after⟩, ran⟩ :
      ∃ attempt, (attemptOnce (recorded world) register byteCount).run (reader, s, []) =
        attempt := ⟨_, rfl⟩
  rw [ran] at attempted
  have continues : (readRegisterSync (recorded world) register byteCount).run (reader, s, []) =
      (afterFirst (recorded world) register byteCount first).run after := by
    rw [readRegisterSync_eq, StateT.run_bind, ran]
    rfl
  rw [continues]
  -- The read goes on after its first attempt exactly if that is retriable.
  by_cases retriable : first.Retriable
  · obtain ⟨address, err, rfl⟩ := retriable.eq_transferred
    have ready : StaticCached after.1 := fun _ => ⟨address, by rw [attempted.reader]; rfl⟩
    obtain ⟨further, retried⟩ := retry_spec world register byteCount err backoffs after ready
    have parts := parts_of_retried attempted retriable rfl retried
    obtain ⟨message, run⟩ := afterFirst_run_of_retriable (recorded world) register byteCount
      retriable after
    rw [run]
    exact ⟨_, further, (parts.withContext message).retriesCorrectly⟩
  · obtain ⟨result, run, last⟩ := afterFirst_run_of_final (recorded world) register byteCount
      retriable after
    rw [run]
    exact ⟨first, [], (parts_of_final attempted retriable last).retriesCorrectly⟩

end BusExporter.I3c
