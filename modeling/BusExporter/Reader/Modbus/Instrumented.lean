import BusExporter.Foundation.Erasure
import BusExporter.Reader.Modbus.Provenance

/-!
# Instrumented devices

A context may come with more than the transport, such as a log of its calls, which
the client cannot see: a read over it returns what it returns over the plain context.
With the states of the device logged, a read is seen to need no answers in states that
its own calls do not meet.
-/

namespace BusExporter.Modbus

open Foundation

variable {κ κ' : Type}

/-! ## What a client cannot see -/

/-- A reader whose calls do what those of another reader do, up to what is forgotten. -/
structure ErasesReader {σ τ : Type} (kept : τ → Prop) (forget : τ → σ) (reader : ModbusReader τ)
    (plain : ModbusReader σ) : Prop where
  holding : ∀ addr count, Erases kept forget (reader.readHoldingRegisters addr count)
    (plain.readHoldingRegisters addr count)
  input : ∀ addr count, Erases kept forget (reader.readInputRegisters addr count)
    (plain.readInputRegisters addr count)
  coil : ∀ addr count,
    Erases kept forget (reader.readCoils addr count) (plain.readCoils addr count)
  discrete : ∀ addr count,
    Erases kept forget (reader.readDiscreteInputs addr count) (plain.readDiscreteInputs addr count)

namespace ErasesReader

variable {σ τ : Type} {kept : τ → Prop} {forget : τ → σ} {reader : ModbusReader τ}
  {plain : ModbusReader σ} (erases : ErasesReader kept forget reader plain)
include erases

theorem readIndividual (st : BatchState) (idx : ℕ) (m : MetricConfig) :
    Erases kept forget (readIndividual reader st idx m) (readIndividual plain st idx m) := by
  refine .bind ?_ fun _ => .pure _
  unfold readSingle
  cases m.address with
  | none => exact .pure _
  | some addr =>
    cases m.registerType.getD .holding with
    | holding => exact (erases.holding addr _).bind fun _ => .pure _
    | input => exact (erases.input addr _).bind fun _ => .pure _
    | coil => exact (erases.coil addr 1).bind fun _ => .pure _
    | discrete => exact (erases.discrete addr 1).bind fun _ => .pure _

theorem readRange {readRegisters : UInt16 → UInt16 → StateM τ (Except Error (List UInt16))}
    {plainRead : UInt16 → UInt16 → StateM σ (Except Error (List UInt16))}
    (same : ∀ addr count, Erases kept forget (readRegisters addr count) (plainRead addr count))
    (st : BatchState) (range : MergedRange) :
    Erases kept forget (readRange reader readRegisters st range)
      (readRange plain plainRead st range) := by
  refine (same _ _).bind fun answer => ?_
  cases answer with
  | ok regs => exact .pure _
  | error e => exact .foldlM (fun st member => erases.readIndividual st _ _) _ _

theorem batchReadCoalesced (metrics : List MetricConfig) :
    Erases kept forget (batchReadCoalesced reader metrics) (batchReadCoalesced plain metrics) := by
  refine .bind (.foldlM (erases.readRange erases.holding) _ _) fun st => ?_
  refine .bind (.foldlM (erases.readRange erases.input) _ _) fun st => ?_
  refine .bind (.foldlM (fun st pair => ?_) _ _) fun _ => .pure _
  exact erases.readIndividual st pair.1 pair.2

end ErasesReader

/-- The calls of a context do what those of a plain one do. -/
structure ErasesCalls (kept : κ' → Prop) (forget : κ' → κ) (calls : ContextCalls κ')
    (plain : ContextCalls κ) : Prop where
  holding : ∀ addr count, Erases kept forget (calls.readHoldingRegisters addr count)
    (plain.readHoldingRegisters addr count)
  input : ∀ addr count, Erases kept forget (calls.readInputRegisters addr count)
    (plain.readInputRegisters addr count)
  coil : ∀ addr count, Erases kept forget (calls.readCoils addr count) (plain.readCoils addr count)
  discrete : ∀ addr count,
    Erases kept forget (calls.readDiscreteInputs addr count) (plain.readDiscreteInputs addr count)

namespace ModbusMetricReader

/-- The client with something else in the place of its context. -/
def mapContext (f : κ' → κ) (client : ModbusMetricReader κ') : ModbusMetricReader κ :=
  { client with context := client.context.map f }

/-- The context of the client, if it has one, is a kept one. -/
def Keeps (kept : κ' → Prop) (client : ModbusMetricReader κ') : Prop :=
  ∀ context, client.context = some context → kept context

variable {kept : κ' → Prop} {forget : κ' → κ}

theorem call_erases {α : Type} (validate : UInt16 → Except Error Unit) (name : String)
    {request : UInt16 → UInt16 → StateM κ' (Response α)}
    {plain : UInt16 → UInt16 → StateM κ (Response α)}
    (erases : ∀ addr count, Erases kept forget (request addr count) (plain addr count))
    (addr count : UInt16) :
    Erases (Keeps kept) (mapContext forget) (call validate name request addr count)
      (call validate name plain addr count) := by
  intro client keeps
  cases valid : validate count with
  | error e =>
    simp only [call, StateT.run, valid] at keeps ⊢
    exact ⟨keeps, trivial⟩
  | ok _ =>
    cases held : client.context with
    | none =>
      simp only [call, StateT.run, valid, held] at keeps ⊢
      exact ⟨keeps, by simp [mapContext, held]⟩
    | some context =>
      simp only [call, StateT.run, valid, held] at keeps ⊢
      obtain ⟨start, same⟩ := erases addr count context (keeps _ rfl)
      refine ⟨fun other isHeld => ?_, ?_⟩
      · cases held.symm.trans isHeld
        exact start
      · have same : plain addr count (forget context) = _ := same
        simp only [mapContext, held, Option.map_some, same]
        rfl

/-- A read returns what the read without the additions returns. -/
theorem read_erases {calls : ContextCalls κ'} {plain : ContextCalls κ}
    (erases : ErasesCalls kept forget calls plain) (client : ModbusMetricReader κ')
    (keeps : Keeps kept ((read calls).run client).2) :
    ((read plain).run (client.mapContext forget)).1 = ((read calls).run client).1 := by
  have readers : ErasesReader (Keeps kept) (mapContext forget) (reader calls) (reader plain) :=
    ⟨call_erases _ _ erases.holding, call_erases _ _ erases.input, call_erases _ _ erases.coil,
      call_erases _ _ erases.discrete⟩
  have same := congrArg Prod.fst (readers.batchReadCoalesced client.metrics client keeps).2
  exact congrArg (fun batch : BatchReadResult =>
    (⟨HashMap.collect (batch.results.map fun result => (result.1.name, result.2)),
      batch.readCount⟩ : ReadResults)) same

end ModbusMetricReader

/-! ## The states that a read meets -/

/-- A call that notes the state in which it finds the device. -/
def noted {α : Type} (request : UInt16 → UInt16 → StateM κ (Response α)) (addr count : UInt16) :
    StateM (κ × List κ) (Response α) := fun (context, met) =>
  let answer := (request addr count).run context
  (answer.1, (answer.2, met ++ [context]))

/-- Contexts that note all states in which their calls find the device, the first one first. -/
def ContextCalls.noted (calls : ContextCalls κ) : ContextCalls (κ × List κ) where
  readHoldingRegisters := Modbus.noted calls.readHoldingRegisters
  readInputRegisters := Modbus.noted calls.readInputRegisters
  readCoils := Modbus.noted calls.readCoils
  readDiscreteInputs := Modbus.noted calls.readDiscreteInputs

/-- The states in which the calls of a read find the device. -/
def contextsOf (calls : ContextCalls κ) (client : ModbusMetricReader κ) : List κ :=
  let read := (ModbusMetricReader.read calls.noted).run (client.mapContext (·, []))
  (read.2.context.map Prod.snd).getD []

/-- A call that is only answered in some states of the device. -/
def answered {α : Type} (met : κ → Bool) (request : UInt16 → UInt16 → StateM κ (Response α))
    (addr count : UInt16) : StateM κ (Response α) := fun context =>
  let answer := (request addr count).run context
  (if met context then answer.1 else .timedOut, answer.2)

def ContextCalls.answered (calls : ContextCalls κ) (met : κ → Bool) : ContextCalls κ where
  readHoldingRegisters := Modbus.answered met calls.readHoldingRegisters
  readInputRegisters := Modbus.answered met calls.readInputRegisters
  readCoils := Modbus.answered met calls.readCoils
  readDiscreteInputs := Modbus.answered met calls.readDiscreteInputs

section

variable {calls : ContextCalls κ}

theorem noted_erases {α : Type} (met : κ → Bool)
    (request : UInt16 → UInt16 → StateM κ (Response α)) (addr count : UInt16) :
    Erases (fun s : κ × List κ => ∀ context ∈ s.2, met context = true) Prod.fst
      (noted request addr count) (answered met request addr count) := by
  rintro ⟨context, log⟩ keeps
  obtain ⟨before, now⟩ := List.forall_mem_append.mp keeps
  have isMet : met context = true := now context (List.mem_singleton_self context)
  refine ⟨before, ?_⟩
  simp only [answered, StateT.run, isMet, if_true]
  rfl

/-- A read meets no other states than these, so it does not need answers in any others. -/
theorem read_answered (client : ModbusMetricReader κ) {met : κ → Bool}
    (all : ∀ context ∈ contextsOf calls client, met context = true) :
    ((ModbusMetricReader.read (calls.answered met)).run client).1 =
      ((ModbusMetricReader.read calls).run client).1 := by
  have erases (met : κ → Bool) : ErasesCalls (fun s : κ × List κ => ∀ context ∈ s.2,
      met context = true) Prod.fst calls.noted (calls.answered met) :=
    ⟨noted_erases met _, noted_erases met _, noted_erases met _, noted_erases met _⟩
  have plain : (client.mapContext (·, ([] : List κ))).mapContext Prod.fst = client := by
    obtain ⟨line, slaveId, context, metrics⟩ := client
    cases context <;> rfl
  -- With all states accepted the calls are the plain ones.
  have unasked : calls.answered (fun _ => true) = calls := rfl
  have restricted := ModbusMetricReader.read_erases (erases met) (client.mapContext (·, []))
    fun held isHeld => by
      intro context mem
      exact all context (by simpa [contextsOf, isHeld] using mem)
  have unrestricted := ModbusMetricReader.read_erases (erases fun _ => true)
    (client.mapContext (·, [])) fun _ _ _ _ => rfl
  rw [plain] at restricted unrestricted
  rw [unasked] at unrestricted
  exact restricted.trans unrestricted.symm

end

end BusExporter.Modbus
