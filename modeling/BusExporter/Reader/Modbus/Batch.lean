import BusExporter.Reader.Decoder

/-!
# Batch reading with register coalescing

Metrics are grouped by register type, sorted by address and merged into ranges;
one Modbus read fetches a range, and its metrics are sliced out of the buffer. A
range that cannot be read falls back to reading its metrics one by one. Coils
and discrete inputs are always read one by one.

A reader's calls may change the reader, so everything runs in the state monad
over an arbitrary reader state.
-/

namespace BusExporter.Modbus

open Foundation

/-- The most registers one read may ask for. -/
def maxRegistersPerRead : ℕ := 125

/-- The most coils or discrete inputs one read may ask for. -/
def maxCoilsPerRead : ℕ := 2000

/-- The largest gap, in registers, that merging two ranges may bridge. -/
def maxCoalesceGap : ℕ := 10

/-- The read interface of a Modbus client whose state is `σ`. -/
structure ModbusReader (σ : Type) where
  readHoldingRegisters : UInt16 → UInt16 → StateM σ (Except Error (List UInt16))
  readInputRegisters : UInt16 → UInt16 → StateM σ (Except Error (List UInt16))
  readCoils : UInt16 → UInt16 → StateM σ (Except Error (List Bool))
  readDiscreteInputs : UInt16 → UInt16 → StateM σ (Except Error (List Bool))

/-! ## Coalescing -/

/-- A metric with its index in the input, to put its result in place. -/
structure IndexedMetric where
  idx : ℕ
  metric : MetricConfig
  addr : UInt16
  count : UInt16
  deriving DecidableEq

/-- A merged range: its first register, the register after its last, and its metrics. -/
structure MergedRange where
  start : UInt16
  stop : UInt16
  members : List IndexedMetric
  deriving DecidableEq

def MergedRange.count (range : MergedRange) : UInt16 := range.stop - range.start

/-- The register after an item's last one, as far as 16 bits go. -/
def IndexedMetric.stop (item : IndexedMetric) : UInt16 := item.addr.saturatingAdd item.count

/-- Merge the items that follow an open range. -/
def coalesceFrom (last : MergedRange) : List IndexedMetric → List MergedRange
  | [] => [last]
  | item :: items =>
    let gap := item.addr.saturatingSub last.stop
    let mergedCount := item.stop.saturatingSub last.start
    if gap.toNat ≤ maxCoalesceGap ∧ mergedCount.toNat ≤ maxRegistersPerRead then
      coalesceFrom
        { last with stop := max last.stop item.stop, members := last.members ++ [item] } items
    else
      -- The gap or the length is too much; the item opens the next range.
      last :: coalesceFrom ⟨item.addr, item.stop, [item]⟩ items

/-- Merge items, sorted by address, into ranges. -/
def coalesce : List IndexedMetric → List MergedRange
  | [] => []
  | item :: items => coalesceFrom ⟨item.addr, item.stop, [item]⟩ items

/-- `sort_by_key(|im| im.addr)`, a stable sort. -/
def sortByAddr (items : List IndexedMetric) : List IndexedMetric :=
  items.insertionSort fun a b => a.addr ≤ b.addr

/-! ## Reading one metric -/

/-- One metric's value from a register buffer read at `rangeStart`. -/
def decodeMetric (metric : MetricConfig) (regs : List UInt16) (rangeStart : UInt16) :
    Except Error (Float × Float) :=
  match metric.address with
  | none => .error (.msg s!"metric '{metric.name}' has no address")
  | some addr =>
    let count := metric.dataType.registerCount.toNat
    -- The subtraction below would wrap around.
    if addr < rangeStart then
      .error (.msg
        s!"metric '{metric.name}' address {addr} is before range start {rangeStart}")
    else
      let offsetInBuf := addr.toNat - rangeStart.toNat
      let stop := offsetInBuf + count
      if stop > regs.length then
        .error (.msg s!"metric '{metric.name}' register range [{offsetInBuf}..{stop}) out of bounds (buffer len {regs.length})")
      else
        Decoder.decodeFor metric ((regs.drop offsetInBuf).take count)

/-- The value of a coil or discrete input response. -/
def decodeBit (metric : MetricConfig) (emptyMessage : String) (bits : List Bool) :
    Except Error (Float × Float) :=
  match bits.head? with
  | none => .error (.msg emptyMessage)
  | some val =>
    let raw : Float := if val then 1.0 else 0.0
    .ok (raw, raw * metric.scale + metric.offset)

variable {σ : Type} (reader : ModbusReader σ)

/-- Read one metric on its own. -/
def readSingle (metric : MetricConfig) : StateM σ (Except Error (Float × Float)) := do
  match metric.address with
  | none => return .error (.msg s!"metric '{metric.name}' has no address")
  | some addr =>
    let count := metric.dataType.registerCount
    match metric.registerType.getD .holding with
    | .holding =>
      let regs ← reader.readHoldingRegisters addr count
      return regs >>= Decoder.decodeFor metric
    | .input =>
      let regs ← reader.readInputRegisters addr count
      return regs >>= Decoder.decodeFor metric
    | .coil =>
      let bits ← reader.readCoils addr 1
      return bits >>= decodeBit metric "empty coil response"
    | .discrete =>
      let bits ← reader.readDiscreteInputs addr 1
      return bits >>= decodeBit metric "empty discrete input response"

/-! ## Reading a batch -/

/-- The slots for the results, and the number of read calls so far. -/
structure BatchState where
  results : List (Option (Except Error (Float × Float)))
  readCount : ℕ

namespace BatchState

def countRead (st : BatchState) : BatchState := { st with readCount := st.readCount + 1 }

def store (st : BatchState) (idx : ℕ) (result : Except Error (Float × Float)) : BatchState :=
  { st with results := st.results.set idx (some result) }

end BatchState

/-- The input, sorted by what has to be read for it. -/
structure Classified where
  results : List (Option (Except Error (Float × Float)))
  holding : List IndexedMetric
  input : List IndexedMetric
  individual : List (ℕ × MetricConfig)

/-- Put one metric where it belongs; a metric without an address fails at once. -/
def classifyMetric (sorted : Classified) (m : MetricConfig) (idx : ℕ) : Classified :=
  match m.address with
  | none =>
    { sorted with
      results := sorted.results.set idx
        (some (.error (.msg s!"metric '{m.name}' has no address"))) }
  | some addr =>
    let count := m.dataType.registerCount
    match m.registerType.getD .holding with
    | .holding => { sorted with holding := sorted.holding ++ [⟨idx, m, addr, count⟩] }
    | .input => { sorted with input := sorted.input ++ [⟨idx, m, addr, count⟩] }
    | .coil | .discrete => { sorted with individual := sorted.individual ++ [(idx, m)] }

def classify (metrics : List MetricConfig) : Classified :=
  metrics.zipIdx.foldl (fun sorted (m, idx) => classifyMetric sorted m idx)
    ⟨List.replicate metrics.length none, [], [], []⟩

/-- Read one metric on its own and store its result. -/
def readIndividual (st : BatchState) (idx : ℕ) (metric : MetricConfig) : StateM σ BatchState := do
  let result ← readSingle reader metric
  -- A read counts whether it succeeds or not.
  return st.countRead.store idx result

/-- The fallback of a range that could not be read. -/
def readMembers (st : BatchState) (members : List IndexedMetric) : StateM σ BatchState :=
  members.foldlM (fun st member => readIndividual reader st member.idx member.metric) st

/-- Slice the metrics of a range out of its buffer. -/
def storeMembers (st : BatchState) (range : MergedRange) (regs : List UInt16) : BatchState :=
  range.members.foldl
    (fun st member => st.store member.idx (decodeMetric member.metric regs range.start)) st

/-- Read one range with the read call of its register type. -/
def readRange (readRegisters : UInt16 → UInt16 → StateM σ (Except Error (List UInt16)))
    (st : BatchState) (range : MergedRange) : StateM σ BatchState := do
  match ← readRegisters range.start range.count with
  | .ok regs => return storeMembers st.countRead range regs
  -- The failed range read counts too, on top of the reads of its members.
  | .error _ => readMembers reader st.countRead range.members

def readRanges (readRegisters : UInt16 → UInt16 → StateM σ (Except Error (List UInt16)))
    (st : BatchState) (ranges : List MergedRange) : StateM σ BatchState :=
  ranges.foldlM (readRange reader readRegisters) st

structure BatchReadResult where
  results : List (MetricConfig × Except Error (Float × Float))
  /-- The number of read calls issued: coalesced ranges and individual fallbacks. -/
  readCount : ℕ

/-- The result that a slot ends up with. -/
def slotResult (results : List (Option (Except Error (Float × Float)))) (m : MetricConfig)
    (idx : ℕ) : Except Error (Float × Float) :=
  (results[idx]?.join).getD (.error (.msg s!"metric '{m.name}' not processed"))

/-- Read all metrics, coalescing register reads. -/
def batchReadCoalesced (metrics : List MetricConfig) : StateM σ BatchReadResult := do
  let sorted := classify metrics
  let st : BatchState := ⟨sorted.results, 0⟩
  let st ← readRanges reader reader.readHoldingRegisters st (coalesce (sortByAddr sorted.holding))
  let st ← readRanges reader reader.readInputRegisters st (coalesce (sortByAddr sorted.input))
  let st ← sorted.individual.foldlM (fun st (idx, m) => readIndividual reader st idx m) st
  return ⟨metrics.zipIdx.map fun (m, idx) => (m, slotResult st.results m idx), st.readCount⟩

end BusExporter.Modbus
