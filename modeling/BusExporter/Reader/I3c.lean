import BusExporter.Reader.Basic
import BusExporter.Reader.Decoder

/-!
# I3C

An I3C device is addressed by a dynamic address, which is looked up in sysfs
unless it is static, and cached. A register read that fails with a transfer error
is retried three times, each time after a wait and a new look-up.

The reader's state and the outside world's change together, so the functions run
in the state monad over both.
-/

namespace BusExporter.I3c

open Foundation

/-! ## Errors -/

inductive I3cErrorKind where
  /-- A NACK or a transfer error, for which re-enumeration may help. -/
  | transferError
  | other
  deriving DecidableEq, Repr

/-- The lower-case form of a character, as far as a search for ASCII text can tell: of the
characters beyond ASCII, only the Kelvin sign and the dotted capital I become ASCII letters. -/
def lowercaseChar (c : Char) : List Char :=
  if c = '\u212A' then ['k']
  else if c = '\u0130' then ['i', '\u0307']
  else [c.toLower]

/-- `to_lowercase`. -/
def toLowercase (text : String) : List Char := text.toList.flatMap lowercaseChar

/-- The texts that mark a transfer error. -/
def transferErrorTexts : List String :=
  ["nack", "transfer", "i/o error", "io error", "connection reset", "remote i/o"]

/-- `classify_error`, on the whole chain of the error. -/
def classifyError (err : Error) : I3cErrorKind :=
  let msg := toLowercase err.displayChain
  if transferErrorTexts.any fun text => containsText text.toList msg then .transferError
  else .other

/-! ## The reader -/

inductive AddressMode where
  | pid (pid : String)
  | static (address : UInt8)
  | deviceClass (deviceClass : String) (instanceIndex : UInt8)
  deriving DecidableEq, Repr

def AddressMode.isStatic : AddressMode → Bool
  | static _ => true
  | _ => false

/-- What a reader does to the outside world: transfers, look-ups in sysfs, and waiting. -/
structure I3cWorld (σ : Type) where
  writeRead : UInt8 → List UInt8 → ℕ → StateM σ (Except Error (List UInt8))
  resolveAddressFromSysfs : AddressMode → StateM σ (Except Error UInt8)
  sleep : Duration → StateM σ Unit

/-- The device returns as many bytes as were asked for. -/
def I3cWorld.Exact {σ : Type} (world : I3cWorld σ) : Prop :=
  ∀ address buf readLen, Always (world.writeRead address buf readLen)
    fun result => ∀ bytes, result = .ok bytes → bytes.length = readLen

structure I3cMetricReader where
  busPath : String
  addressMode : AddressMode
  resolvedAddress : Option UInt8
  deriving DecidableEq

/-- `I3cMetricReader::new`: a static address is resolved from the start. -/
def I3cMetricReader.new (busPath : String) (addressMode : AddressMode) : I3cMetricReader where
  busPath := busPath
  addressMode := addressMode
  resolvedAddress :=
    match addressMode with
    | .static addr => some addr
    | _ => none

/-- A computation of a reader in a world. -/
abbrev Session (σ : Type) := StateM (I3cMetricReader × σ)

/-- An operation on the world alone. -/
def inWorld {σ α : Type} (m : StateM σ α) : Session σ α := fun (reader, s) =>
  let (a, s') := m.run s
  (a, (reader, s'))

variable {σ : Type} (world : I3cWorld σ)

/-- Resolve the address, if it is not cached. -/
def resolveAddress : Session σ (Except Error UInt8) := do
  let reader := (← get).1
  -- A cached address is used without a look at sysfs.
  match reader.resolvedAddress with
  | some addr => return .ok addr
  | none =>
    match ← inWorld (world.resolveAddressFromSysfs reader.addressMode) with
    | .error e => return .error e
    | .ok addr =>
      modify fun (reader, s) => ({ reader with resolvedAddress := some addr }, s)
      return .ok addr

/-- Forget the cached address, unless it is static. -/
def invalidateAddress : Session σ Unit :=
  modify fun (reader, s) =>
    -- A static address could not be found again.
    if reader.addressMode.isStatic then (reader, s)
    else ({ reader with resolvedAddress := none }, s)

/-- Write bytes to the resolved address. -/
def writeBytes (buf : List UInt8) : Session σ (Except Error Unit) := do
  match ← resolveAddress world with
  | .error e => return .error e
  | .ok devAddr =>
    let result ← inWorld (world.writeRead devAddr buf 0)
    return (withContext result "I3C write_bytes").map fun _ => ()

/-- The waits before the retries. -/
def backoffs : List Duration :=
  [Duration.ofMillis 100, Duration.ofMillis 500, Duration.ofMillis 2000]

/-- Retry a register read after each of the waits; the last error is the one reported. -/
def retry (register : UInt8) (byteCount : ℕ) (lastErr : Error) :
    List Duration → Session σ (Except Error (List UInt8))
  | [] => return .error lastErr
  | backoff :: backoffs => do
    inWorld (world.sleep backoff)
    invalidateAddress
    match ← resolveAddress world with
    | .error e => retry register byteCount e backoffs
    | .ok newAddr =>
      match ← inWorld (world.writeRead newAddr [register] byteCount) with
      | .error e => retry register byteCount e backoffs
      | .ok data => return .ok data

/-- Read bytes from a register, with retries after a transfer error. -/
def readRegisterSync (register : UInt8) (byteCount : ℕ) :
    Session σ (Except Error (List UInt8)) := do
  match ← resolveAddress world with
  | .error e => return .error e
  | .ok address =>
    match ← inWorld (world.writeRead address [register] byteCount) with
    | .ok data => return .ok data
    | .error err =>
      match classifyError err with
      -- What does not look like a transfer error is not retried.
      | .other => return .error (err.context "I3C read failed (non-retriable)")
      | .transferError =>
        let busPath := (← get).1.busPath
        let result ← retry world register byteCount err backoffs
        return withContext result s!"I3C read failed after {backoffs.length} retries on {busPath}"

/-! ## Metrics -/

/-- The register a metric is read from. -/
def register : MetricConfig → Except Panic UInt8 := Reader.registerOf

/-- `read_i3c_metric`. -/
def readI3cMetric (metric : MetricConfig) : Call (I3cMetricReader × σ) MetricResult := do
  let register ← (register metric : Except Panic UInt8)
  let numBytes := Decoder.byteCount (Decoder.mapDataType metric.dataType)
  let result ← external (readRegisterSync world register numBytes)
  return result >>= Decoder.decodeBytesFor metric

/-! ## What is read -/

section Read

variable {world} {metric : MetricConfig}

/-- The bytes come from a transfer with some address that was to read this register. -/
def Transferred (world : I3cWorld σ) (register : UInt8) (byteCount : ℕ) (bytes : List UInt8) :
    Prop :=
  ∃ address s, ((world.writeRead address [register] byteCount).run s).1 = .ok bytes

/-- The value is decoded from bytes that a device returned from the metric's own register. -/
def ReadFrom (world : I3cWorld σ) (metric : MetricConfig) (value : Float × Float) : Prop :=
  ∃ register, Reader.ReadsAddress metric register ∧ ∃ bytes,
    Transferred world register metric.dataType.byteSize bytes ∧
      Decoder.decodeBytesFor metric bytes = .ok value

theorem always_inWorld {α : Type} {m : StateM σ α} {P : α → Prop} (always : Always m P) :
    Always (inWorld m) P :=
  fun s => always s.2

theorem transfer_transferred (address register : UInt8) (byteCount : ℕ) :
    Always (inWorld (world.writeRead address [register] byteCount)) fun result =>
      ∀ bytes, result = .ok bytes → Transferred world register byteCount bytes :=
  always_inWorld fun s _ responded => ⟨address, s, responded⟩

/-- Each retry reads the same register. -/
theorem retry_transferred (register : UInt8) (byteCount : ℕ) (lastErr : Error)
    (backoffs : List Duration) :
    Always (retry world register byteCount lastErr backoffs) fun result =>
      ∀ bytes, result = .ok bytes → Transferred world register byteCount bytes := by
  induction backoffs generalizing lastErr with
  | nil => exact .pure fun _ read => nomatch read
  | cons backoff backoffs ih =>
    refine (Always.any _).bind fun _ _ => (Always.any _).bind fun _ _ => ?_
    refine (Always.any _).bind fun resolved _ => ?_
    cases resolved with
    | error e => exact ih e
    | ok newAddr =>
      refine (transfer_transferred newAddr register byteCount).bind fun result transferred => ?_
      cases result with
      | error e => exact ih e
      | ok data => exact .pure transferred

theorem readRegisterSync_transferred (register : UInt8) (byteCount : ℕ) :
    Always (readRegisterSync world register byteCount) fun result =>
      ∀ bytes, result = .ok bytes → Transferred world register byteCount bytes := by
  refine (Always.any _).bind fun resolved _ => ?_
  cases resolved with
  | error e => exact .pure fun _ read => nomatch read
  | ok address =>
    refine (transfer_transferred address register byteCount).bind fun result transferred => ?_
    cases result with
    | ok data => exact .pure transferred
    | error err =>
      simp only
      cases classifyError err with
      | other => exact .pure fun _ read => nomatch read
      | transferError =>
        refine (Always.any _).bind fun reader _ => ?_
        refine (retry_transferred register byteCount err _).bind fun result transferred => .pure ?_
        intro bytes read
        cases result with
        | error e => cases read
        | ok data => exact transferred bytes read

theorem readI3cMetric_returns (fits : metric.FitsByte) :
    Returns (readI3cMetric world metric) fun result =>
      ∀ value, result = .ok value → ReadFrom world metric value := by
  obtain ⟨register, evaluates, reads⟩ := Reader.registerOf_of_fitsByte fits
  refine (Returns.lift (P := (· = register)) evaluates rfl).bind fun _ same => ?_
  subst same
  refine (Returns.external (readRegisterSync_transferred _ _)).bind
    fun response transferred => .pure ?_
  intro value decoded
  cases response with
  | error e => cases decoded
  | ok bytes =>
    rw [Decoder.byteCount_mapDataType] at transferred
    exact ⟨_, reads, bytes, transferred bytes rfl, decoded⟩

/-- Every look-up finds an address, and every transfer returns as many bytes as were asked for. -/
structure I3cWorld.Answers (world : I3cWorld σ) : Prop where
  resolve : ∀ mode, Always (world.resolveAddressFromSysfs mode) fun result =>
    ∃ address, result = .ok address
  transfer : ∀ address buf readLen, Always (world.writeRead address buf readLen)
    fun result => ∃ bytes, result = .ok bytes ∧ bytes.length = readLen

theorem resolveAddress_isOk (answers : world.Answers) :
    Always (resolveAddress world) fun result => ∃ address, result = .ok address := by
  refine (Always.any _).bind fun s _ => ?_
  simp only
  cases s.1.resolvedAddress with
  | some addr => exact .pure ⟨addr, rfl⟩
  | none =>
    refine (always_inWorld (answers.resolve _)).bind ?_
    rintro _ ⟨addr, rfl⟩
    exact (Always.any _).bind fun _ _ => .pure ⟨addr, rfl⟩

/-- A metric that is read without a panic from a device that answers has a value. -/
theorem isOk_of_read (answers : world.Answers) {s s' : I3cMetricReader × σ}
    {result : MetricResult} (ran : (readI3cMetric world metric).run s = .ok (result, s')) :
    ∃ value, result = .ok value := by
  obtain ⟨register, s₁, -, ran⟩ := run_bind_eq_ok.mp ran
  obtain ⟨response, s₂, responded, ran⟩ := run_bind_eq_ok.mp ran
  obtain ⟨rfl, -⟩ := run_pure_eq_ok.mp ran
  have answered : Always (readRegisterSync world register
      (Decoder.byteCount (Decoder.mapDataType metric.dataType))) fun result =>
        ∃ bytes, result = .ok bytes ∧ bytes.length = metric.dataType.byteSize := by
    refine (resolveAddress_isOk answers).bind ?_
    rintro _ ⟨address, rfl⟩
    refine (always_inWorld (answers.transfer _ _ _)).bind ?_
    rintro _ ⟨bytes, rfl, enough⟩
    exact .pure ⟨bytes, rfl, by rw [enough, Decoder.byteCount_mapDataType]⟩
  obtain ⟨bytes, answered, enough⟩ := answered s₁
  rw [run_external_eq_ok] at responded
  rw [responded] at answered
  subst answered
  exact Decoder.decodeBytesFor_isOk metric bytes (by rw [enough])

end Read

end BusExporter.I3c
