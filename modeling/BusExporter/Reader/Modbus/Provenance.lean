import BusExporter.Reader.Modbus.Client

/-!
# Where a Modbus value comes from

A batch read decodes a metric from the metric's own registers: either from a read
of a range that starts at or before them, at the distance from the range's start,
or from a read of them alone. An address is never cut off.
-/

namespace BusExporter.Modbus

open Foundation

variable {κ : Type}

/-- The value is decoded from the registers at the metric's address, in the data of one
request that starts there or before. -/
def FromRegisters (request : UInt16 → UInt16 → StateM κ (Response UInt16)) (m : MetricConfig)
    (value : Float × Float) : Prop :=
  ∃ addr start count context regs, m.address = some addr ∧ start ≤ addr ∧
    ((request start count).run context).1 = .data regs ∧
      ∃ values, values <+: regs.drop (addr.toNat - start.toNat) ∧
        Decoder.decodeFor m values = .ok value

/-- The value is the bit at the metric's address, in the data of one request. -/
def FromBit (request : UInt16 → UInt16 → StateM κ (Response Bool)) (m : MetricConfig)
    (value : Float × Float) : Prop :=
  ∃ addr context bits emptyMessage, m.address = some addr ∧
    ((request addr 1).run context).1 = .data bits ∧ decodeBit m emptyMessage bits = .ok value

/-- The value comes from the metric's own address, in the table of its register type. -/
def ReadFrom (calls : ContextCalls κ) (m : MetricConfig) (value : Float × Float) : Prop :=
  match m.registerType.getD .holding with
  | .holding => FromRegisters calls.readHoldingRegisters m value
  | .input => FromRegisters calls.readInputRegisters m value
  | .coil => FromBit calls.readCoils m value
  | .discrete => FromBit calls.readDiscreteInputs m value

namespace ModbusMetricReader

theorem isData_of_toResult {α : Type} {response : Response α} {call : String}
    {addr count : UInt16} {peer : String} {values : List α}
    (read : response.toResult call addr count peer = .ok values) : response = .data values := by
  cases response with
  | data values' =>
    rw [Response.toResult, Except.ok.injEq] at read
    rw [read]
  | timedOut | failed | exception => cases read

/-- A call that yields values has them from a request. -/
theorem call_data {α : Type} (validate : UInt16 → Except Error Unit) (name : String)
    (request : UInt16 → UInt16 → StateM κ (Response α)) (addr count : UInt16) :
    Always (call validate name request addr count) fun result =>
      ∀ values, result = .ok values →
        ∃ context, ((request addr count).run context).1 = .data values := by
  intro client values read
  simp only [call, StateT.run] at read
  cases valid : validate count with
  | error e =>
    rw [valid] at read
    cases read
  -- A valid count still needs a context to be asked.
  | ok _ =>
    rw [valid] at read
    cases held : client.context with
    | none =>
      rw [held] at read
      cases read
    | some context =>
      rw [held] at read
      exact ⟨context, isData_of_toResult read⟩

variable {calls : ContextCalls κ} {m : MetricConfig}

/-- What the values of one call are decoded to. -/
theorem decoded_from_call {α : Type} (validate : UInt16 → Except Error Unit) (name : String)
    (request : UInt16 → UInt16 → StateM κ (Response α)) (addr count : UInt16)
    (decode : List α → MetricResult) {good : Float × Float → Prop}
    (decoded : ∀ values context value, ((request addr count).run context).1 = .data values →
      decode values = .ok value → good value) :
    Always (call validate name request addr count >>= fun values => pure (values >>= decode))
      fun result => ∀ value, result = .ok value → good value := by
  refine (call_data validate name request addr count).bind fun result fromRequest => .pure ?_
  intro value isOk
  cases result with
  | error e => cases isOk
  | ok values =>
    obtain ⟨context, answered⟩ := fromRequest values rfl
    exact decoded values context value answered isOk

/-- A metric that is read on its own is read from its address. -/
theorem readSingle_readFrom (m : MetricConfig) :
    Always (readSingle (reader calls) m) fun result =>
      ∀ value, result = .ok value → ReadFrom calls m value := by
  unfold readSingle
  cases address : m.address with
  | none => exact .pure fun _ isOk => nomatch isOk
  | some addr =>
    simp only
    unfold ReadFrom
    cases m.registerType.getD .holding with
    | holding | input =>
      refine decoded_from_call _ _ _ _ _ _ fun regs context value answered decoded => ?_
      refine ⟨addr, addr, _, context, regs, address, UInt16.le_refl addr, answered, regs, ?_,
        decoded⟩
      rw [Nat.sub_self, List.drop_zero]
    | coil | discrete =>
      refine decoded_from_call _ _ _ _ _ _ fun bits context value answered decoded => ?_
      exact ⟨addr, context, bits, _, address, answered, decoded⟩

/-- A slice of a range is the metric's own part of it. -/
theorem fromRegisters_of_slice {request : UInt16 → UInt16 → StateM κ (Response UInt16)}
    {start count : UInt16} {context : κ} {regs : List UInt16} {value : Float × Float}
    (answered : ((request start count).run context).1 = .data regs)
    (sliced : decodeMetric m regs start = .ok value) : FromRegisters request m value := by
  unfold decodeMetric at sliced
  cases address : m.address with
  | none =>
    rw [address] at sliced
    cases sliced
  | some addr =>
    simp only [address] at sliced
    by_cases before : addr < start
    · rw [if_pos before] at sliced
      cases sliced
    · rw [if_neg before] at sliced
      split at sliced
      · cases sliced
      · exact ⟨addr, start, count, context, regs, address, UInt16.not_lt.mp before, answered, _,
          List.take_prefix _ _, sliced⟩

/-- Every value of a batch comes from its metric's own address. -/
theorem delivers_readFrom (metrics : List MetricConfig) :
    Delivers (reader calls) metrics (fun _ => True) fun i result =>
      ∀ m, metrics[i]? = some m → ∀ value, result = .ok value → ReadFrom calls m value where
  missing _ _ _ _ _ _ _ isOk := nomatch isOk
  range _ _ _ _ _ _ := trivial
  sliced registerType isRegister group mem s regs _ read item inGroup m found value decoded := by
    obtain ⟨found', -, typed, -⟩ := mem_itemsOf.mp (Greedy.mem_of_mem_groups _ mem inGroup)
    obtain rfl : item.metric = m := Option.some_inj.mp (found'.symm.trans found)
    unfold ReadFrom
    rw [typed]
    rcases isRegister with rfl | rfl
    · obtain ⟨context, answered⟩ := call_data _ _ _ _ _ s regs read
      exact fromRegisters_of_slice answered decoded
    · obtain ⟨context, answered⟩ := call_data _ _ _ _ _ s regs read
      exact fromRegisters_of_slice answered decoded
  fallback registerType _ group mem s e _ _ item inGroup := by
    refine Always.ensures ((readSingle_readFrom item.metric).mono fun result single m found => ?_)
    have found' := (mem_itemsOf.mp (Greedy.mem_of_mem_groups _ mem inGroup)).1
    obtain rfl : item.metric = m := Option.some_inj.mp (found'.symm.trans found)
    exact single
  bit i m mem := by
    refine Always.ensures ((readSingle_readFrom m).mono fun result single m' found => ?_)
    obtain rfl : m = m' := Option.some_inj.mp ((mem_bits.mp mem).1.symm.trans found)
    exact single

/-- Every value that a read returns comes from the address of a metric of that name. -/
theorem read_readFrom (client : ModbusMetricReader κ) :
    Reader.AllGood (fun m result => ∀ value, result = .ok value → ReadFrom calls m value)
      client.metrics ((read calls).run client).1.metrics := by
  intro name result found
  obtain ⟨-, results⟩ := read_delivers client (delivers_readFrom client.metrics) trivial
  obtain ⟨i, m, atIdx, named, good⟩ := results (name, result) (HashMap.mem_pairs.mpr found)
  exact ⟨m, List.mem_of_getElem? atIdx, named, good m atIdx⟩

end ModbusMetricReader

end BusExporter.Modbus
