import BusExporter.Reader.Modbus.Agreement
import BusExporter.Reader.Modbus.Instrumented

/-!
# Devices that change

A device whose memory changes while it is read. A range is read at once and cut into
metrics, and other metrics are read on their own; still, what a read returns for a metric
is what the metric's own cells held, all of them in one and the same state of the device,
and one that the read's calls have met.
-/

namespace BusExporter

open Foundation

/-! ## Decoding the first registers -/

namespace Decoder

/-- A raw number depends on no more registers than its data type needs. -/
theorem rawOfRegisters_congr {dataType : DataType} {registers others : List UInt16}
    (same : ∀ i < registersNeeded dataType, registers.getD i 0 = others.getD i 0)
    (byteOrder : ByteOrder) :
    rawOfRegisters registers dataType byteOrder = rawOfRegisters others dataType byteOrder := by
  have first : registers.getD 0 0 = others.getD 0 0 := same 0 (by cases dataType <;> decide)
  unfold rawOfRegisters
  cases dataType with
  | u8 | u16 | i16 | bool => simp only [first]
  | u32 | i32 | f32 => simp only [reorder32, first, same 1 (by decide)]
  | u64 | i64 | f64 =>
    simp only [reorder64, first, same 1 (by decide), same 2 (by decide), same 3 (by decide)]

/-- What the start of a list of registers decodes to is what the metric's own ones do. -/
theorem decodeFor_take {metric : MetricConfig} {values registers : List UInt16}
    (start : values <+: registers) {value : Float × Float}
    (decoded : decodeFor metric values = .ok value) :
    metric.dataType.registerCount.toNat ≤ registers.length ∧
      decodeFor metric (registers.take metric.dataType.registerCount.toNat) = .ok value := by
  have needed := registersNeeded_mapDataType metric.dataType
  have enough : metric.dataType.registerCount.toNat ≤ values.length := by
    by_contra short
    simp [decodeFor, decode, needed, Nat.not_le.mp short, Except.mapError] at decoded
  have longer := start.length_le
  refine ⟨by omega, ?_⟩
  have raw : rawOfRegisters (registers.take metric.dataType.registerCount.toNat)
      (mapDataType metric.dataType) (mapByteOrder metric.byteOrder) =
        rawOfRegisters values (mapDataType metric.dataType) (mapByteOrder metric.byteOrder) := by
    refine rawOfRegisters_congr (fun i inside => ?_) _
    obtain ⟨rest, rfl⟩ := start
    rw [needed] at inside
    have present : i < values.length := by omega
    rw [List.getD, List.getD, List.getElem?_take_of_lt inside, List.getElem?_append_left present]
  rw [← decoded]
  have length : (registers.take metric.dataType.registerCount.toNat).length =
      metric.dataType.registerCount.toNat := List.length_take_of_le (by omega)
  simp only [decodeFor, decode, needed, length, lt_irrefl, if_false, Nat.not_lt.mpr enough, raw]

end Decoder

/-! ## Devices that change -/

namespace Modbus

variable {κ : Type}

/-- The data that a call yields are the cells that it asked for, as the device's memory has them
in the state in which the call meets it. A call may also fail, in any state. -/
structure ContextCalls.Answers (calls : ContextCalls κ) (memory : κ → Memory) : Prop where
  holding : ∀ addr count context regs,
    ((calls.readHoldingRegisters addr count).run context).1 = .data regs →
      readCells (memory context).holding maxRegistersPerRead addr count = some regs
  input : ∀ addr count context regs,
    ((calls.readInputRegisters addr count).run context).1 = .data regs →
      readCells (memory context).input maxRegistersPerRead addr count = some regs
  coil : ∀ addr count context bits,
    ((calls.readCoils addr count).run context).1 = .data bits →
      readCells (memory context).coil maxCoilsPerRead addr count = some bits
  discrete : ∀ addr count context bits,
    ((calls.readDiscreteInputs addr count).run context).1 = .data bits →
      readCells (memory context).discrete maxCoilsPerRead addr count = some bits

/-- The response to a read that finds these cells, or cannot read them. -/
def Response.ofCells {α : Type} : Option (List α) → Response α
  | some values => .data values
  | none => .exception (.msg "Illegal data address")

theorem Response.ofCells_eq_data {α : Type} {cells : Option (List α)} {values : List α} :
    Response.ofCells cells = .data values ↔ cells = some values := by
  cases cells <;> simp [ofCells]

/-- A device that answers from its memory, and moves on with every call. -/
def changing (memory : κ → Memory) (next : κ → κ) : ContextCalls κ where
  readHoldingRegisters addr count context :=
    (.ofCells (readCells (memory context).holding maxRegistersPerRead addr count), next context)
  readInputRegisters addr count context :=
    (.ofCells (readCells (memory context).input maxRegistersPerRead addr count), next context)
  readCoils addr count context :=
    (.ofCells (readCells (memory context).coil maxCoilsPerRead addr count), next context)
  readDiscreteInputs addr count context :=
    (.ofCells (readCells (memory context).discrete maxCoilsPerRead addr count), next context)

theorem changing_answers (memory : κ → Memory) (next : κ → κ) :
    (changing memory next).Answers memory where
  holding _ _ _ _ := Response.ofCells_eq_data.mp
  input _ _ _ _ := Response.ofCells_eq_data.mp
  coil _ _ _ _ := Response.ofCells_eq_data.mp
  discrete _ _ _ _ := Response.ofCells_eq_data.mp

/-- A part of a range that decodes is what reading the metric's own registers gives. -/
theorem decoded_alone {request : UInt16 → UInt16 → StateM κ (Response UInt16)}
    {cells : κ → ℕ → Option UInt16}
    (answers : ∀ addr count context regs,
      ((request addr count).run context).1 = .data regs →
        readCells (cells context) maxRegistersPerRead addr count = some regs)
    {m : MetricConfig} {value : Float × Float} (fromRange : FromRegisters request m value) :
    ∃ addr context regs, m.address = some addr ∧
      readCells (cells context) maxRegistersPerRead addr m.dataType.registerCount = some regs ∧
        Decoder.decodeFor m regs = .ok value := by
  obtain ⟨addr, start, count, context, regs, address, after, answered, values, part, decoded⟩ :=
    fromRange
  have read := answers start count context regs answered
  obtain ⟨enough, alone⟩ := Decoder.decodeFor_take part decoded
  rw [List.length_drop, length_of_readCells read] at enough
  have size := m.dataType.registerCount_mem
  have limit := (readCells_eq_some.mp read).1
  rw [UInt16.le_iff_toNat_le] at after
  refine ⟨addr, context, _, address, ?_, alone⟩
  exact readCells_slice read (UInt16.le_iff_toNat_le.mpr after) (by omega) (by omega)

/-- A memory of which nothing can be read. -/
def Memory.unreadable : Memory :=
  ⟨fun _ => none, fun _ => none, fun _ => none, fun _ => none⟩

theorem readCells_none {α : Type} (limit : ℕ) (addr count : UInt16) :
    readCells (fun _ => (none : Option α)) limit addr count = none := by
  unfold readCells
  split
  · rename_i counted
    obtain ⟨more, succ⟩ := Nat.exists_eq_add_one.mpr counted.1
    rw [succ, List.range'_succ, List.mapM_cons]
    rfl
  · rfl

@[simp]
theorem Memory.single_unreadable (m : MetricConfig) : Memory.unreadable.single m = none := by
  unfold Memory.single
  cases m.address with
  | none => rfl
  | some addr =>
    cases m.registerType.getD .holding <;>
      simp [Memory.registers, Memory.unreadable, readCells_none]

/-- The text for an empty answer does not matter where there is a value. -/
theorem decodeBit_ok {m : MetricConfig} {emptyMessage : String} {bits : List Bool}
    {value : Float × Float} (decoded : decodeBit m emptyMessage bits = .ok value)
    (otherMessage : String) : decodeBit m otherMessage bits = .ok value := by
  unfold decodeBit at decoded ⊢
  cases head : bits.head? with
  | none =>
    rw [head] at decoded
    cases decoded
  | some bit =>
    rw [head] at decoded
    exact decoded

variable {calls : ContextCalls κ} {memory : κ → Memory}

/-- What is read for a metric is what reading it on its own finds in one state of the device. -/
theorem ReadFrom.single (answers : calls.Answers memory) {m : MetricConfig}
    {value : Float × Float} (readFrom : ReadFrom calls m value) :
    ∃ context, (memory context).single m = some value := by
  unfold ReadFrom at readFrom
  unfold Memory.single
  cases registerType : m.registerType.getD .holding with
  | holding =>
    rw [registerType] at readFrom
    obtain ⟨addr, context, regs, address, read, decoded⟩ := decoded_alone answers.holding readFrom
    exact ⟨context, by simp [address, Memory.registers, read, decoded, Except.toOption]⟩
  | input =>
    rw [registerType] at readFrom
    obtain ⟨addr, context, regs, address, read, decoded⟩ := decoded_alone answers.input readFrom
    exact ⟨context, by simp [address, Memory.registers, read, decoded, Except.toOption]⟩
  | coil =>
    rw [registerType] at readFrom
    obtain ⟨addr, context, bits, _, address, answered, decoded⟩ := readFrom
    have read := answers.coil addr 1 context bits answered
    exact ⟨context, by simp [address, read, decodeBit_ok decoded, Except.toOption]⟩
  | discrete =>
    rw [registerType] at readFrom
    obtain ⟨addr, context, bits, _, address, answered, decoded⟩ := readFrom
    have read := answers.discrete addr 1 context bits answered
    exact ⟨context, by simp [address, read, decodeBit_ok decoded, Except.toOption]⟩

/-- A device that answers from its memory, if it answers in some states only. -/
theorem ContextCalls.Answers.answered (answers : calls.Answers memory) (met : κ → Bool) :
    (calls.answered met).Answers fun context =>
      if met context then memory context else .unreadable := by
  have restricted {α : Type} {request : UInt16 → UInt16 → StateM κ (Response α)}
      {cells : Memory → ℕ → Option α} {limit : ℕ}
      (data : ∀ addr count context values, ((request addr count).run context).1 = .data values →
        readCells (cells (memory context)) limit addr count = some values)
      (addr count : UInt16) (context : κ) (values : List α)
      (isData : ((Modbus.answered met request addr count).run context).1 = .data values) :
      readCells (cells (if met context then memory context else .unreadable)) limit addr count =
        some values := by
    have response : ((Modbus.answered met request addr count).run context).1 =
      if met context then ((request addr count).run context).1 else .timedOut := rfl
    rw [response] at isData
    by_cases isMet : met context = true
    · rw [if_pos isMet] at isData ⊢
      exact data addr count context values isData
    · rw [if_neg isMet] at isData
      cases isData
  exact ⟨restricted answers.holding, restricted answers.input, restricted answers.coil,
    restricted answers.discrete⟩

/-- What a read returns for a metric is what the metric's own cells held in a state of the device
that the read has met. -/
theorem ModbusMetricReader.read_single (answers : calls.Answers memory)
    (client : ModbusMetricReader κ) :
    Reader.AllGood (fun m result => ∀ value, result = .ok value →
        ∃ context ∈ contextsOf calls client, (memory context).single m = some value)
      client.metrics ((read calls).run client).1.metrics := by
  classical
  intro name result found
  have same := @read_answered κ calls client
    (fun context => decide (context ∈ contextsOf calls client)) (by simp)
  rw [← same] at found
  obtain ⟨m, mem, named, readFrom⟩ := read_readFrom client name result found
  refine ⟨m, mem, named, fun value isOk => ?_⟩
  obtain ⟨context, single⟩ := (readFrom value isOk).single (answers.answered _)
  by_cases met : context ∈ contextsOf calls client
  · exact ⟨context, met, by simpa [met] using single⟩
  · simp [met] at single

end Modbus

end BusExporter
