import BusExporter.Config.Accepted
import BusExporter.Foundation.Mutex
import BusExporter.Reader.I2cBus

/-!
# Register transactions

An operation's signals stand on its bus one after another, with nothing in between:
all users of a bus path have the same lock, the lock is exclusive, and only the
thread that holds it talks to the bus. So the register pointer that a read finds
is the one that it has set itself, and what a write sends arrives as one message.
-/

namespace BusExporter.I2cBus

open Foundation

/-! ## One lock for each bus path -/

/-- The lock that is returned is the one in the map from then on. -/
theorem lookup_getBusLock (busLocks : HashMap ℕ) (busPath : String) :
    (getBusLock busLocks busPath).2.lookup busPath = some (getBusLock busLocks busPath).1 := by
  unfold getBusLock
  cases found : busLocks.lookup busPath with
  | none => exact AList.lookup_insert _
  | some lock => exact found

/-- The locks that are in the map stay in it. -/
theorem lookup_getBusLock_of_some {busLocks : HashMap ℕ} {other : String} {lock : ℕ}
    (present : busLocks.lookup other = some lock) (busPath : String) :
    (getBusLock busLocks busPath).2.lookup other = some lock := by
  unfold getBusLock
  cases found : busLocks.lookup busPath with
  | none =>
    -- The new lock goes under a path that had none, so not under this one.
    have different : other ≠ busPath := by
      rintro rfl
      rw [found] at present
      cases present
    rw [← present]
    exact AList.lookup_insert_ne different
  | some _ => exact present

/-! ## Traffic -/

/-- The signal of an event on a bus. -/
def Event.signalOn (busPath : String) : Event → Option Signal
  | .signal path seen => if path = busPath then some seen else none
  | _ => none

/-- What was seen on a bus, the newest signal first. -/
def traffic (busPath : String) (history : List Event) : List Signal :=
  history.filterMap (Event.signalOn busPath)

/-- The last signals on a bus were these, with nothing in between. -/
def EndsWith (seen signals : List Signal) : Prop := signals.reverse <+: seen

theorem EndsWith.next {seen signals : List Signal} (ends : EndsWith seen signals)
    (signal : Signal) : EndsWith (signal :: seen) (signals ++ [signal]) := by
  rw [EndsWith, List.reverse_append]
  exact List.cons_prefix_cons.mpr ⟨rfl, ends⟩

theorem endsWith_start (seen : List Signal) (signal : Signal) :
    EndsWith (signal :: seen) [signal] := ⟨seen, rfl⟩

/-- A message to a device, up to its last byte. -/
def sent (address : UInt8) (bytes : List UInt8) : List Signal :=
  .startWrite address :: bytes.map .byte

/-- A message from a device, up to its last byte. -/
def received (address : UInt8) (bytes : List UInt8) : List Signal :=
  .startRead address :: bytes.map .byte

/-- All of a read: its register, and the bytes from there on. -/
def readTraffic (address register : UInt8) (bytes : List UInt8) : List Signal :=
  sent address [register] ++ [.stop] ++ received address bytes ++ [.stop]

/-- All of a write: one message. -/
def writeTraffic (address : UInt8) (bytes : List UInt8) : List Signal :=
  sent address bytes ++ [.stop]

section Invariant

variable {μ : Type} (registers : Registers μ)

/-- What is stored from a register on. -/
def stored (memory : μ) (register : UInt8) (numBytes : ℕ) : List UInt8 :=
  (List.range numBytes).map (registers.load memory register)

theorem stored_succ (memory : μ) (register : UInt8) (numBytes : ℕ) :
    stored registers memory register (numBytes + 1) =
      stored registers memory register numBytes ++ [registers.load memory register numBytes] := by
  simp [stored, List.range_succ]

/-- How far a thread that uses its device has got: the state of the device, and what it and
nobody else has put on the bus last. -/
def UnderWay (device : Device μ) (seen : List Signal) (t : Thread) : Prop :=
  match t.location with
  | .sending left =>
    ∃ done, done ++ left = t.operation.buf ∧ device.position = done.length ∧
      (∀ register ∈ done.head?, device.pointer = register) ∧ EndsWith seen (sent t.address done)
  | .selected =>
    ∃ register numBytes, t.operation = .read register numBytes ∧ device.pointer = register ∧
      EndsWith seen (sent t.address [register] ++ [.stop])
  | .receiving bytes =>
    ∃ register numBytes, t.operation = .read register numBytes ∧ device.pointer = register ∧
      device.position = bytes.length ∧ bytes.length ≤ numBytes ∧
      bytes = stored registers device.memory register bytes.length ∧
      EndsWith seen (sent t.address [register] ++ [.stop] ++ received t.address bytes)
  | _ => True

/-- A thread holds a lock. -/
def Holds (threads : List Thread) (id lock : ℕ) : Prop :=
  ∃ t, threads[id]? = some t ∧ t.location.holdsBus = true ∧ t.busLock = lock

structure BusInv (s : State μ) (history : List Event) : Prop where
  partyLocks : ∀ p ∈ s.parties, s.busLocks.lookup p.busPath = some p.busLock
  threadLocks : ∀ t ∈ s.threads, s.busLocks.lookup t.busPath = some t.busLock
  exclusive : Exclusive s.busLocked (Holds s.threads)
  underWay : ∀ (id : ℕ) (t : Thread), s.threads[id]? = some t →
    UnderWay registers (s.deviceOf t) (traffic t.busPath history) t

end Invariant

/-! ## What one step can do -/

section Steps

variable {μ : Type} (registers : Registers μ) (s : State μ)

inductive Transition : State μ → List Event → Prop
  | created (busPath : String) (address : UInt8) (role : Role) :
    Transition
      { s with
        busLocks := (getBusLock s.busLocks busPath).2
        parties := s.parties ++ [⟨busPath, address, (getBusLock s.busLocks busPath).1, role⟩] } []
  | spawned {party : ℕ} {p : Party} (operation : Operation) : s.parties[party]? = some p →
    Transition
      { s with threads :=
          s.threads ++ [⟨p.busPath, p.address, p.busLock, party, operation, .waiting⟩] } []
  | lockedBus {id : ℕ} {t : Thread} : s.threads[id]? = some t → t.location = .waiting →
    s.busLocked t.busLock = false →
    Transition
      { s.move id t .lockedBus (s.deviceOf t) with
        busLocked := Function.update s.busLocked t.busLock true } []
  | lockedDevice {id : ℕ} {t : Thread} : s.threads[id]? = some t → t.location = .lockedBus →
    Transition
      { s.move id t .lockedDevice (s.deviceOf t) with
        deviceLocked := Function.update s.deviceLocked t.party true } []
  | started {id : ℕ} {t : Thread} : s.threads[id]? = some t → t.location = .lockedDevice →
    Transition (s.move id t (.sending t.operation.buf) (s.deviceOf t).start)
      [.signal t.busPath (.startWrite t.address)]
  | sent {id : ℕ} {t : Thread} (byte : UInt8) (left : List UInt8) : s.threads[id]? = some t →
    t.location = .sending (byte :: left) →
    Transition (s.move id t (.sending left) ((s.deviceOf t).receive registers byte))
      [.signal t.busPath (.byte byte)]
  | selected {id : ℕ} {t : Thread} {register : UInt8} {numBytes : ℕ} : s.threads[id]? = some t →
    t.location = .sending [] → t.operation = .read register numBytes →
    Transition (s.move id t .selected (s.deviceOf t)) [.signal t.busPath .stop]
  | wrote {id : ℕ} {t : Thread} {address : UInt8} {value : ByteValue} :
    s.threads[id]? = some t → t.location = .sending [] → t.operation = .write address value →
    Transition (s.release id t) [.signal t.busPath .stop, .wrote id]
  | readStarted {id : ℕ} {t : Thread} : s.threads[id]? = some t → t.location = .selected →
    Transition (s.move id t (.receiving []) (s.deviceOf t).start)
      [.signal t.busPath (.startRead t.address)]
  | received {id : ℕ} {t : Thread} {bytes : List UInt8} {register : UInt8} {numBytes : ℕ} :
    s.threads[id]? = some t → t.location = .receiving bytes →
    t.operation = .read register numBytes → bytes.length < numBytes →
    Transition
      (s.move id t (.receiving (bytes ++ [(s.deviceOf t).current registers]))
        (s.deviceOf t).advance)
      [.signal t.busPath (.byte ((s.deviceOf t).current registers))]
  | returned {id : ℕ} {t : Thread} {bytes : List UInt8} {register : UInt8} {numBytes : ℕ} :
    s.threads[id]? = some t → t.location = .receiving bytes →
    t.operation = .read register numBytes → numBytes ≤ bytes.length →
    Transition (s.release id t) [.signal t.busPath .stop, .returned id bytes]
  | failed {id : ℕ} {t : Thread} : s.threads[id]? = some t → t.location.usesDevice = true →
    Transition (s.release id t) [.failed id]

variable {registers s} {s' : State μ} {events : List Event}

theorem transition_of_runThread {id : ℕ} {t : Thread} (at_id : s.threads[id]? = some t)
    (ran : s.runThread registers id t = some (s', events)) :
    Transition registers s s' events := by
  unfold State.runThread at ran
  -- One case for each place in `execute`, with the lock that it may have to wait for.
  cases at_location : t.location with
  | waiting =>
    simp only [at_location, Option.ite_none_left_eq_some] at ran
    obtain ⟨free, ran⟩ := ran
    cases ran
    exact .lockedBus at_id at_location (by simpa using free)
  | lockedBus =>
    simp only [at_location, Option.ite_none_left_eq_some] at ran
    obtain ⟨-, ran⟩ := ran
    cases ran
    exact .lockedDevice at_id at_location
  | lockedDevice =>
    simp only [at_location] at ran
    cases ran
    exact .started at_id at_location
  | sending left =>
    cases left with
    | cons byte left =>
      simp only [at_location] at ran
      cases ran
      exact .sent byte left at_id at_location
    | nil =>
      cases operation : t.operation with
      | read register numBytes =>
        simp only [at_location, operation] at ran
        cases ran
        exact .selected at_id at_location operation
      | write address value =>
        simp only [at_location, operation] at ran
        cases ran
        exact .wrote at_id at_location operation
  | selected =>
    simp only [at_location] at ran
    cases ran
    exact .readStarted at_id at_location
  | receiving bytes =>
    cases operation : t.operation with
    | read register numBytes =>
      simp only [at_location, operation] at ran
      split at ran
      · rename_i more
        cases ran
        exact .received at_id at_location operation more
      · rename_i enough
        cases ran
        exact .returned at_id at_location operation (Nat.le_of_not_lt enough)
    | write address value => simp [at_location, operation] at ran
  | finished => simp [at_location] at ran

/-- A reaction to an input is one of the steps. -/
theorem transition_of_step {input : Input} (stepped : s.step registers input = some (s', events)) :
    Transition registers s s' events := by
  cases input with
  | create busPath address role =>
    cases stepped
    exact .created busPath address role
  | spawn party index =>
    simp only [State.step, Option.bind_eq_bind, Option.bind_eq_some_iff] at stepped
    obtain ⟨p, at_party, operation, -, stepped⟩ := stepped
    cases stepped
    exact .spawned operation at_party
  | run id =>
    simp only [State.step, Option.bind_eq_bind, Option.bind_eq_some_iff] at stepped
    obtain ⟨t, at_id, ran⟩ := stepped
    exact transition_of_runThread at_id ran
  | fail id =>
    simp only [State.step, Option.bind_eq_bind, Option.bind_eq_some_iff,
      Option.ite_none_right_eq_some] at stepped
    obtain ⟨t, at_id, uses, stepped⟩ := stepped
    cases stepped
    exact .failed at_id uses

end Steps

/-! ## Every run -/

section Runs

variable {μ : Type} {registers : Registers μ} {s s' : State μ} {history events : List Event}

@[simp]
theorem traffic_signal (busPath : String) (signal : Signal) (history : List Event) :
    traffic busPath (.signal busPath signal :: history) = signal :: traffic busPath history := by
  simp [traffic, Event.signalOn]

/-- A thread that does not hold its bus has nothing under way. -/
theorem underWay_of_idle {t : Thread} (idle : t.location.holdsBus = false) (device : Device μ)
    (seen : List Signal) : UnderWay registers device seen t := by
  unfold UnderWay
  cases at_location : t.location with
  | sending | selected | receiving =>
    rw [at_location] at idle
    cases idle
  | _ => trivial

theorem holdsBus_of_usesDevice {location : Location} (uses : location.usesDevice = true) :
    location.holdsBus = true := by
  cases location <;> first | rfl | cases uses

theorem position_receive (device : Device μ) (byte : UInt8) :
    (device.receive registers byte).position = device.position + 1 := by
  unfold Device.receive
  split <;> simp [*]

/-- Only the first byte of a message sets the pointer. -/
theorem pointer_receive {device : Device μ} (later : device.position ≠ 0) (byte : UInt8) :
    (device.receive registers byte).pointer = device.pointer := by
  unfold Device.receive
  split
  · contradiction
  · rfl

/-- Who holds a lock after a thread has gone on. -/
theorem holds_set {threads : List Thread} {id other lock : ℕ} {t : Thread}
    (holds : Holds (threads.set id t) other lock) :
    other = id ∧ t.location.holdsBus = true ∧ t.busLock = lock ∨
      other ≠ id ∧ Holds threads other lock := by
  obtain ⟨u, at_other, held, isLock⟩ := holds
  rw [List.getElem?_set] at at_other
  by_cases same : id = other
  · rw [if_pos same, Option.ite_none_right_eq_some] at at_other
    obtain ⟨-, isThread⟩ := at_other
    cases isThread
    exact .inl ⟨same.symm, held, isLock⟩
  · rw [if_neg same] at at_other
    exact .inr ⟨Ne.symm same, u, at_other, held, isLock⟩

/-- A thread after another one was spawned. -/
theorem old_or_spawned {threads : List Thread} {id : ℕ} {t new : Thread}
    (at_id : (threads ++ [new])[id]? = some t) : threads[id]? = some t ∨ t = new := by
  rw [List.getElem?_append] at at_id
  split at at_id
  · exact .inl at_id
  · exact .inr (List.mem_singleton.mp (List.mem_of_getElem? at_id))

namespace BusInv

theorem init (devices : String → UInt8 → Device μ) : BusInv registers (.initial devices) [] where
  partyLocks p mem := by cases mem
  threadLocks t mem := by cases mem
  exclusive := by constructor <;> simp [State.initial, Holds]
  underWay id t at_id := by simp [State.initial] at at_id

variable {id : ℕ} {t : Thread}

/-- A thread that holds its bus goes on and still holds it. -/
theorem exclusive_keep (inv : BusInv registers s history) (at_id : s.threads[id]? = some t)
    (held : t.location.holdsBus = true) (location : Location) :
    Exclusive s.busLocked (Holds (s.threads.set id { t with location := location })) := by
  apply inv.exclusive.keep
  intro other lock holds
  rcases holds_set holds with ⟨rfl, -, isLock⟩ | ⟨-, before⟩
  · exact ⟨t, at_id, held, isLock⟩
  · exact before

theorem exclusive_acquire (inv : BusInv registers s history)
    (free : s.busLocked t.busLock = false) (location : Location) :
    Exclusive (Function.update s.busLocked t.busLock true)
      (Holds (s.threads.set id { t with location := location })) := by
  -- Whoever holds a lock held it before, or has just taken it.
  have taken : ∀ other lock, Holds (s.threads.set id { t with location := location }) other lock →
      Holds s.threads other lock ∨ other = id ∧ lock = t.busLock := by
    intro other lock holds
    rcases holds_set holds with ⟨isThread, -, isLock⟩ | ⟨-, before⟩
    · exact .inr ⟨isThread, isLock.symm⟩
    · exact .inl before
  exact inv.exclusive.acquire free taken

theorem exclusive_release (inv : BusInv registers s history) (at_id : s.threads[id]? = some t)
    (held : t.location.holdsBus = true) :
    Exclusive (Function.update s.busLocked t.busLock false)
      (Holds (s.threads.set id { t with location := .finished })) := by
  -- The lock is given back by the only thread that holds it.
  have holder : Holds s.threads id t.busLock := ⟨t, at_id, held, rfl⟩
  apply inv.exclusive.release holder
  intro other lock holds
  rcases holds_set holds with ⟨-, finished, -⟩ | ⟨isOther, before⟩
  · cases finished
  · exact ⟨before, isOther⟩

/-- Nobody else who holds a bus is on the bus of a thread that holds its own. -/
theorem busPath_ne (inv : BusInv registers s history) (at_id : s.threads[id]? = some t)
    (held : t.location.holdsBus = true) {other : ℕ} {u : Thread}
    (at_other : s.threads[other]? = some u) (different : other ≠ id)
    (held' : u.location.holdsBus = true) : u.busPath ≠ t.busPath := by
  intro same
  -- Two holders on one path would have the same lock.
  have lock := inv.threadLocks t (List.mem_of_getElem? at_id)
  have lock' := inv.threadLocks u (List.mem_of_getElem? at_other)
  rw [same, lock, Option.some_inj] at lock'
  apply different
  exact inv.exclusive.unique t.busLock other id ⟨u, at_other, held', lock'.symm⟩
    ⟨t, at_id, held, rfl⟩

/-- A thread goes on. Either it holds its bus, and then it may change its device and put
signals on its bus, or it leaves both alone. -/
theorem move (inv : BusInv registers s history) (at_id : s.threads[id]? = some t)
    (location : Location) (device : Device μ) (busLocked deviceLocked : ℕ → Bool)
    (events : List Event)
    (exclusive : Exclusive busLocked (Holds (s.threads.set id { t with location := location })))
    (allowed : t.location.holdsBus = true ∨ device = s.deviceOf t ∧ events = [])
    (ownBus : ∀ event ∈ events, ∀ path, path ≠ t.busPath → event.signalOn path = none)
    (underWay : UnderWay registers device (traffic t.busPath (events.reverse ++ history))
      { t with location := location }) :
    BusInv registers
      { s.move id t location device with busLocked := busLocked, deviceLocked := deviceLocked }
      (events.reverse ++ history) where
  partyLocks := inv.partyLocks
  threadLocks u mem := by
    rcases List.mem_or_eq_of_mem_set mem with before | rfl
    · exact inv.threadLocks u before
    · exact inv.threadLocks t (List.mem_of_getElem? at_id)
  exclusive := exclusive
  underWay other u at_other := by
    simp only [State.move, List.getElem?_set] at at_other
    by_cases same : id = other
    · rw [if_pos same, Option.ite_none_right_eq_some] at at_other
      obtain ⟨-, isThread⟩ := at_other
      cases isThread
      simpa [State.deviceOf, State.move] using underWay
    · rw [if_neg same] at at_other
      have before := inv.underWay other u at_other
      -- An idle thread has nothing under way; one that holds its bus is not disturbed.
      cases held' : u.location.holdsBus with
      | false => exact underWay_of_idle held' _ _
      | true =>
        rcases allowed with held | ⟨rfl, rfl⟩
        · -- The other thread is on another bus, which is left alone.
          have apart := inv.busPath_ne at_id held at_other (Ne.symm same) held'
          have unseen : traffic u.busPath events.reverse = [] := by
            apply List.filterMap_eq_nil_iff.mpr
            exact fun event mem => ownBus event (List.mem_reverse.mp mem) _ apart
          have silent : traffic u.busPath (events.reverse ++ history) =
              traffic u.busPath history := by
            rw [traffic, List.filterMap_append, ← traffic, unseen, List.nil_append, traffic]
          rw [silent]
          simpa [State.deviceOf, State.move, apart] using before
        · simpa [State.deviceOf, State.move] using before

/-- A thread that holds its bus goes on, with one signal on its bus. -/
theorem signal (inv : BusInv registers s history) (at_id : s.threads[id]? = some t)
    (held : t.location.holdsBus = true) (location : Location) (device : Device μ)
    (signal : Signal)
    (underWay : UnderWay registers device (signal :: traffic t.busPath history)
      { t with location := location }) :
    BusInv registers (s.move id t location device) (.signal t.busPath signal :: history) := by
  apply inv.move at_id location device s.busLocked s.deviceLocked [.signal t.busPath signal]
    (inv.exclusive_keep at_id held location) (.inl held)
  · simp [Event.signalOn, eq_comm]
  · simpa using underWay

/-- A thread's operation has ended. -/
theorem release (inv : BusInv registers s history) (at_id : s.threads[id]? = some t)
    (held : t.location.holdsBus = true) (events : List Event)
    (ownBus : ∀ event ∈ events, ∀ path, path ≠ t.busPath → event.signalOn path = none) :
    BusInv registers (s.release id t) (events.reverse ++ history) :=
  inv.move at_id .finished (s.deviceOf t) _ _ events (inv.exclusive_release at_id held)
    (.inl held) ownBus trivial

end BusInv

theorem busInv_of_transition (inv : BusInv registers s history)
    (transition : Transition registers s s' events) :
    BusInv registers s' (events.reverse ++ history) := by
  -- Creating and spawning add idle parties; the other steps are those of one thread.
  cases transition with
  | created busPath address role =>
    constructor
    · intro p mem
      rcases List.mem_append.mp mem with before | new
      · exact lookup_getBusLock_of_some (inv.partyLocks p before) busPath
      · rw [List.mem_singleton.mp new]
        exact lookup_getBusLock s.busLocks busPath
    · exact fun t mem => lookup_getBusLock_of_some (inv.threadLocks t mem) busPath
    · exact inv.exclusive
    · exact inv.underWay
  | spawned operation at_party =>
    rename_i party p
    constructor
    · exact inv.partyLocks
    · intro t mem
      rcases List.mem_append.mp mem with before | new
      · exact inv.threadLocks t before
      · rw [List.mem_singleton.mp new]
        exact inv.partyLocks p (List.mem_of_getElem? at_party)
    · apply inv.exclusive.keep
      rintro id lock ⟨t, at_id, held, isLock⟩
      -- A spawned thread waits: it holds no lock and has sent nothing.
      rcases old_or_spawned at_id with before | rfl
      · exact ⟨t, before, held, isLock⟩
      · cases held
    · intro id t at_id
      rcases old_or_spawned at_id with before | rfl
      · exact inv.underWay id t before
      · trivial
  | lockedBus at_id at_location free =>
    exact inv.move at_id .lockedBus _ _ _ [] (inv.exclusive_acquire free _) (.inr ⟨rfl, rfl⟩)
      (by simp) trivial
  | lockedDevice at_id at_location =>
    exact inv.move at_id .lockedDevice _ _ _ []
      (inv.exclusive_keep at_id (by rw [at_location]; rfl) _) (.inr ⟨rfl, rfl⟩) (by simp) trivial
  | started at_id at_location =>
    apply inv.signal at_id (by rw [at_location]; rfl)
    exact ⟨[], rfl, rfl, by simp, endsWith_start _ _⟩
  | sent byte left at_id at_location =>
    have before := inv.underWay _ _ at_id
    simp only [UnderWay, at_location] at before
    obtain ⟨done, whole, position, pointer, ends⟩ := before
    apply inv.signal at_id (by rw [at_location]; rfl)
    refine ⟨done ++ [byte], by simpa using whole, ?_, ?_, ?_⟩
    · rw [position_receive, position, List.length_append, List.length_singleton]
    · -- The first byte sets the pointer, and those after it leave it alone.
      cases done with
      | nil => simp [Device.receive, position]
      | cons first rest =>
        rw [pointer_receive (by simp [position])]
        simpa using pointer
    · simpa [I2cBus.sent] using ends.next (.byte byte)
  | selected at_id at_location operation =>
    rename_i register numBytes
    have before := inv.underWay _ _ at_id
    simp only [UnderWay, at_location, operation, Operation.buf, List.append_nil] at before
    -- The whole buffer is sent: of a read, that is the register.
    obtain ⟨done, rfl, -, pointer, ends⟩ := before
    apply inv.signal at_id (by rw [at_location]; rfl)
    exact ⟨register, numBytes, operation, by simpa using pointer, ends.next .stop⟩
  | wrote at_id at_location operation =>
    exact inv.release at_id (by rw [at_location]; rfl) _ (by simp [Event.signalOn, eq_comm])
  | readStarted at_id at_location =>
    have before := inv.underWay _ _ at_id
    simp only [UnderWay, at_location] at before
    obtain ⟨register, numBytes, operation, pointer, ends⟩ := before
    apply inv.signal at_id (by rw [at_location]; rfl)
    exact ⟨register, numBytes, operation, pointer, rfl, Nat.zero_le _, rfl,
      ends.next (.startRead _)⟩
  | received at_id at_location operation more =>
    rename_i t bytes register numBytes
    have before := inv.underWay _ _ at_id
    simp only [UnderWay, at_location, operation] at before
    obtain ⟨_, _, isRead, pointer, position, -, loaded, ends⟩ := before
    cases isRead
    apply inv.signal at_id (by rw [at_location]; rfl)
    refine ⟨register, numBytes, operation, pointer, ?_, ?_, ?_, ?_⟩
    · simp [Device.advance, position]
    · simpa using more
    · -- The device sends what it has at its pointer, as many bytes on as were sent before.
      have grown := stored_succ registers (s.deviceOf t).memory register bytes.length
      rw [List.length_append, List.length_singleton]
      refine Eq.trans ?_ grown.symm
      rw [← loaded, Device.current, pointer, position]
    · simpa [I2cBus.received] using ends.next (.byte _)
  | returned at_id at_location operation enough =>
    exact inv.release at_id (by rw [at_location]; rfl) _ (by simp [Event.signalOn, eq_comm])
  | failed at_id uses =>
    exact inv.release at_id (holdsBus_of_usesDevice uses) _ (by simp [Event.signalOn])

theorem busInv_of_reaches {devices : String → UInt8 → Device μ}
    (reaches : (machine registers devices).Reaches s history) : BusInv registers s history :=
  reaches.invariant (BusInv registers) (.init devices) fun _ inv stepped =>
    busInv_of_transition inv (transition_of_step stepped)

/-- What an operation comes to when its thread returns: a read brings what its device holds from
its register on, and the signals of either operation are the last ones on the bus. -/
structure Unmixed (registers : Registers μ) (s : State μ) (history events : List Event) :
    Prop where
  read : ∀ id bytes, .returned id bytes ∈ events → ∃ t register numBytes,
    s.threads[id]? = some t ∧ t.operation = .read register numBytes ∧
      bytes = stored registers (s.deviceOf t).memory register numBytes ∧
      EndsWith (traffic t.busPath (events.reverse ++ history))
        (readTraffic t.address register bytes)
  written : ∀ id, .wrote id ∈ events → ∃ t address value,
    s.threads[id]? = some t ∧ t.operation = .write address value ∧
      EndsWith (traffic t.busPath (events.reverse ++ history))
        (writeTraffic t.address (address :: value.asBytes))

end Runs

/-- A memory of 256 bytes in which the registers follow one another. -/
def flat : Registers (UInt8 → UInt8) where
  store memory register distance := Function.update memory (register + .ofNat distance)
  load memory register distance := memory (register + .ofNat distance)

/-- Every register holds its own address. -/
def blankDevices : String → UInt8 → Device (UInt8 → UInt8) := fun _ _ => ⟨id, 0, 0⟩

/-- A reader and a writer of one device; the writer has to wait until the reader is done. -/
def sensorUsers : List Input :=
  [.create "/dev/i2c-1" 0x76 (.reader Samples.sensor.metrics),
    .create "/dev/i2c-1" 0x76 (.writer Samples.sensor.prePoll), .spawn 0 0, .run 0, .spawn 1 0] ++
    List.replicate 7 (.run 0)

end BusExporter.I2cBus
