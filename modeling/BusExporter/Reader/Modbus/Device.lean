import BusExporter.Foundation.Always
import BusExporter.Reader.Modbus.Batch

/-!
# Devices as fixed memories

A device with a fixed partial memory, and what its read calls return: exactly as
many values as were asked for, or a failure when the number is outside the
Modbus limit or an addressed cell is unreadable.
-/

namespace BusExporter.Modbus

open Foundation

/-! ## Devices -/

/-- The readable cells of a device and what they hold. -/
structure Memory where
  holding : ℕ → Option UInt16
  input : ℕ → Option UInt16
  coil : ℕ → Option Bool
  discrete : ℕ → Option Bool

/-- The registers of a register type; coils and discrete inputs have none. -/
def Memory.registers (memory : Memory) : RegisterType → ℕ → Option UInt16
  | .holding => memory.holding
  | .input => memory.input
  | .coil | .discrete => fun _ => none

/-- A read of `count` cells: within the limit, and with every cell readable. -/
def readCells {α : Type} (cells : ℕ → Option α) (limit : ℕ) (addr count : UInt16) :
    Option (List α) :=
  if 1 ≤ count.toNat ∧ count.toNat ≤ limit then
    (List.range' addr.toNat count.toNat).mapM cells
  else none

/-- The reader's calls answer from the memory, in every state. -/
structure ModbusReader.Serves {σ : Type} (reader : ModbusReader σ) (memory : Memory) : Prop where
  holding : ∀ addr count, Always (reader.readHoldingRegisters addr count)
    (·.toOption = readCells memory.holding maxRegistersPerRead addr count)
  input : ∀ addr count, Always (reader.readInputRegisters addr count)
    (·.toOption = readCells memory.input maxRegistersPerRead addr count)
  coil : ∀ addr count, Always (reader.readCoils addr count)
    (·.toOption = readCells memory.coil maxCoilsPerRead addr count)
  discrete : ∀ addr count, Always (reader.readDiscreteInputs addr count)
    (·.toOption = readCells memory.discrete maxCoilsPerRead addr count)

/-- The response to a read that yields these values, or none. -/
def respond {α : Type} (values : Option (List α)) : StateM Unit (Except Error (List α)) :=
  pure (match values with
    | some values => .ok values
    | none => .error (.msg "Modbus exception: Illegal data address"))

/-- A client of a device with a fixed memory. -/
def Memory.reader (memory : Memory) : ModbusReader Unit where
  readHoldingRegisters addr count :=
    respond (readCells memory.holding maxRegistersPerRead addr count)
  readInputRegisters addr count :=
    respond (readCells memory.input maxRegistersPerRead addr count)
  readCoils addr count := respond (readCells memory.coil maxCoilsPerRead addr count)
  readDiscreteInputs addr count := respond (readCells memory.discrete maxCoilsPerRead addr count)

theorem respond_toOption {α : Type} (values : Option (List α)) :
    Always (respond values) (·.toOption = values) := by
  cases values <;> exact .pure rfl

theorem Memory.reader_serves (memory : Memory) : memory.reader.Serves memory where
  holding _ _ := respond_toOption _
  input _ _ := respond_toOption _
  coil _ _ := respond_toOption _
  discrete _ _ := respond_toOption _

theorem mapM_eq_some {α β : Type} (f : α → Option β) (xs : List α) (ys : List β) :
    xs.mapM f = some ys ↔ xs.map f = ys.map some := by
  induction xs generalizing ys with
  | nil => cases ys <;> simp
  | cons x xs ih =>
    rw [List.mapM_cons]
    cases ys with
    | nil => simp [Option.bind_eq_some_iff]
    | cons y ys => simp [ih, Option.bind_eq_some_iff]

theorem isSome_mapM {α β : Type} (f : α → Option β) (xs : List α) :
    (xs.mapM f).isSome ↔ ∀ x ∈ xs, (f x).isSome := by
  induction xs with
  | nil => simp
  | cons x xs ih =>
    rw [List.mapM_cons, List.forall_mem_cons, ← ih]
    cases f x <;> cases xs.mapM f <;> simp

theorem readCells_eq_some {α : Type} {cells : ℕ → Option α} {limit : ℕ} {addr count : UInt16}
    {values : List α} :
    readCells cells limit addr count = some values ↔
      (1 ≤ count.toNat ∧ count.toNat ≤ limit) ∧
        (List.range' addr.toNat count.toNat).map cells = values.map some := by
  unfold readCells
  split <;> simp_all [mapM_eq_some]

/-- A read returns exactly as many values as were asked for. -/
theorem length_of_readCells {α : Type} {cells : ℕ → Option α} {limit : ℕ} {addr count : UInt16}
    {values : List α} (read : readCells cells limit addr count = some values) :
    values.length = count.toNat := by
  have lengths := congrArg List.length (readCells_eq_some.mp read).2
  simpa using lengths.symm

theorem isSome_readCells {α : Type} {cells : ℕ → Option α} {limit : ℕ} {addr count : UInt16} :
    (readCells cells limit addr count).isSome ↔
      (1 ≤ count.toNat ∧ count.toNat ≤ limit) ∧
        ∀ i, addr.toNat ≤ i → i < addr.toNat + count.toNat → (cells i).isSome := by
  unfold readCells
  split
  · rename_i bounds
    rw [isSome_mapM]
    simp only [List.mem_range'_1, bounds, and_imp, and_self, true_and]
  · rename_i outside
    simp [outside]

/-- A stretch of a successful read is what reading the stretch returns. -/
theorem readCells_slice {α : Type} {cells : ℕ → Option α} {limit : ℕ}
    {start total addr count : UInt16} {values : List α}
    (read : readCells cells limit start total = some values) (after : start ≤ addr)
    (inside : addr.toNat + count.toNat ≤ start.toNat + total.toNat)
    (bounds : 1 ≤ count.toNat ∧ count.toNat ≤ limit) :
    readCells cells limit addr count =
      some ((values.drop (addr.toNat - start.toNat)).take count.toNat) := by
  rw [UInt16.le_iff_toNat_le] at after
  rw [readCells_eq_some]
  refine ⟨bounds, ?_⟩
  rw [List.map_take, List.map_drop, ← (readCells_eq_some.mp read).2, ← List.map_drop,
    ← List.map_take, List.drop_range', List.take_range'_of_length_ge (by omega)]
  congr 2
  omega

end BusExporter.Modbus
