import BusExporter.Foundation.HashMap

/-!
# Errors with context

The program reports failures as `anyhow` errors: a root cause and the contexts
wrapped around it, the outermost first.
-/

namespace BusExporter

/-- An `anyhow::Error`, as its chain of messages from the outermost context to the root cause. -/
structure Error where
  chain : List String
  deriving DecidableEq, Repr

namespace Error

/-- `anyhow!(message)`. -/
def msg (message : String) : Error := ⟨[message]⟩

/-- `.context(message)` on an error. -/
def context (e : Error) (message : String) : Error := ⟨message :: e.chain⟩

/-- `{e}`: the outermost message. -/
def display (e : Error) : String := e.chain.headD ""

/-- `{e:#}`: the whole chain. -/
def displayChain (e : Error) : String := ": ".intercalate e.chain

end Error

/-- `.with_context(message)` on a result. -/
def withContext {α : Type} (result : Except Error α) (message : String) : Except Error α :=
  result.mapError (·.context message)

/-- `.with_context(message)` on an option. -/
def someOr {α : Type} (value : Option α) (message : String) : Except Error α :=
  match value with
  | some a => .ok a
  | none => .error (.msg message)

theorem someOr_eq_ok {α : Type} {value : Option α} {message : String} {a : α} :
    someOr value message = .ok a ↔ value = some a := by
  cases value <;> simp [someOr]

theorem withContext_eq_ok {α : Type} {result : Except Error α} {message : String} {a : α} :
    withContext result message = .ok a ↔ result = .ok a := by
  cases result <;> simp [withContext, Except.mapError]

end BusExporter
