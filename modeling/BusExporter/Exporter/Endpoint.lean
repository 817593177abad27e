import BusExporter.Foundation.Hex

/-!
# Broker endpoints

A broker is named by a scheme, a host and a port, of which the scheme and the port may
be missing. A host in brackets can hold colons, and any other host is split from the
port at its last colon, provided that a port follows. Endpoints parse back to the parts
they are written from.
-/

namespace BusExporter.Mqtt

open Foundation

/-! ## Parsing -/

/-- The endpoint without its scheme, and whether the scheme asks for TLS. -/
def stripScheme (endpoint : List Char) : List Char × Bool :=
  match stripStart "mqtts://".toList endpoint with
  | some r => (r, true)
  | none =>
    match stripStart "mqtt://".toList endpoint with
    | some r => (r, false)
    -- Without a scheme the connection is plain.
    | none => (endpoint, false)

/-- `[addr]:port` or `[addr]`. What follows the bracket counts as a port only if it is one. -/
def bracketed (defaultPort : UInt16) (rest : List Char) : Option (List Char × UInt16) := do
  let restAfterBracket ← stripStart ['['] rest
  let (addr, afterBracket) ← splitOnce ']' restAfterBracket
  return (addr, ((stripStart [':'] afterBracket).bind parseU16).getD defaultPort)

/-- `host:port`, with a number after the last colon. -/
def hostPort (rest : List Char) : Option (List Char × UInt16) := do
  let (h, p) ← rsplitOnce ':' rest
  let port ← parseU16 p
  return (h, port)

/-- `parse_endpoint`: the host, the port and whether TLS is used. -/
def parseEndpoint (endpoint : String) : String × UInt16 × Bool :=
  let (rest, tls) := stripScheme endpoint.toList
  let defaultPort := if tls then 8883 else 1883
  let (host, port) := (bracketed defaultPort rest <|> hostPort rest).getD (rest, defaultPort)
  (String.ofList host, port, tls)

/-! ## Writing -/

inductive Scheme where
  | mqtt
  | mqtts
  deriving DecidableEq, Repr

namespace Scheme

def text : Scheme → String
  | mqtt => "mqtt://"
  | mqtts => "mqtts://"

def tls : Scheme → Bool
  | mqtt => false
  | mqtts => true

def defaultPort : Scheme → UInt16
  | mqtt => 1883
  | mqtts => 8883

end Scheme

variable (scheme : Scheme) (port : UInt16)

/-- Neither scheme is taken for the other. -/
theorem stripScheme_append (rest : List Char) :
    stripScheme (scheme.text.toList ++ rest) = (rest, scheme.tls) := by
  cases scheme <;> rfl

/-- Below the scheme only the default port depends on it. -/
theorem parseEndpoint_append (rest : String) :
    parseEndpoint (scheme.text ++ rest) =
      let (host, port) :=
        (bracketed scheme.defaultPort rest.toList <|> hostPort rest.toList).getD
          (rest.toList, scheme.defaultPort)
      (String.ofList host, port, scheme.tls) := by
  have default : (if scheme.tls then 8883 else 1883) = scheme.defaultPort := by
    cases scheme <;> rfl
  rw [parseEndpoint, String.toList_append, stripScheme_append]
  simp only [default]

/-- A printed port parses to itself. -/
theorem parseU16_toDigits : parseU16 (Nat.toDigits 10 port.toNat) = some port := by
  have valued := @digitsValue_toDigits 10 (by decide) (by decide) port.toNat
  have unsigned : stripStart ['+'] (Nat.toDigits 10 port.toNat) = none := by
    rw [Option.eq_none_iff_forall_ne_some]
    intro rest stripped
    -- A sign has no value.
    rw [(stripStart_eq_some _ _ _).mp stripped, List.singleton_append] at valued
    cases valued
  have bound : port.toNat < 65536 := port.toNat_lt
  rw [parseU16, parseRadix, unsigned, Option.getD_none, if_neg Nat.toDigits_ne_nil, valued]
  simp [Option.filter, bound]

theorem colon_notMem_toDigits : ':' ∉ Nat.toDigits 10 port.toNat := by
  intro mem
  have digit := Nat.isDigit_of_mem_toDigits (by decide) (by decide) mem
  revert digit
  decide

/-! ## Reading back -/

section

variable {host : String}

/-- A text that does not start with a bracket is not bracketed. -/
theorem bracketed_of_head {rest : List Char} (plain : rest.head? ≠ some '[') (default : UInt16) :
    bracketed default rest = none := by
  have unmatched : stripStart ['['] rest = none := by
    cases rest with
    | nil => rfl
    | cons c rest =>
      have other : ¬ '[' = c := fun same => plain (by rw [← same, List.head?_cons])
      rw [stripStart, if_neg other]
  rw [bracketed, unmatched]
  rfl

theorem hostPort_of_port (h : List Char) : hostPort (h ++ ':' :: Nat.toDigits 10 port.toNat) =
    some (h, port) := by
  rw [hostPort, rsplitOnce_append_cons (colon_notMem_toDigits port)]
  simp [parseU16_toDigits]

theorem hostPort_of_notMem {h : List Char} (noColon : ':' ∉ h) : hostPort h = none := by
  rw [hostPort, rsplitOnce_of_notMem noColon]
  rfl

/-- The address ends at the first closing bracket. -/
theorem bracketed_of_closed {addr : List Char} (unclosed : ']' ∉ addr) (default : UInt16)
    (after : List Char) : bracketed default ('[' :: (addr ++ ']' :: after)) =
      some (addr, ((stripStart [':'] after).bind parseU16).getD default) := by
  have stripped : stripStart ['['] ('[' :: (addr ++ ']' :: after)) = some (addr ++ ']' :: after) :=
    (stripStart_eq_some _ _ _).mpr rfl
  rw [bracketed, stripped]
  simp [splitOnce_append_cons unclosed]

theorem parseEndpoint_hostPort (plain : host.toList.head? ≠ some '[') :
    parseEndpoint (scheme.text ++ (host ++ ":" ++ port.toNat.repr)) =
      (host, port, scheme.tls) := by
  have text : (host ++ ":" ++ port.toNat.repr).toList =
      host.toList ++ ':' :: Nat.toDigits 10 port.toNat := by simp
  have head : (host.toList ++ ':' :: Nat.toDigits 10 port.toNat).head? ≠ some '[' := by
    cases split : host.toList with
    | nil => simp
    | cons c h => rwa [split] at plain
  rw [parseEndpoint_append, text, bracketed_of_head head, hostPort_of_port]
  simp

theorem parseEndpoint_bracketed (unclosed : ']' ∉ host.toList) :
    parseEndpoint (scheme.text ++ ("[" ++ host ++ "]" ++ ":" ++ port.toNat.repr)) =
      (host, port, scheme.tls) := by
  have text : ("[" ++ host ++ "]" ++ ":" ++ port.toNat.repr).toList =
      '[' :: (host.toList ++ ']' :: ':' :: Nat.toDigits 10 port.toNat) := by simp
  have stripped : stripStart [':'] (':' :: Nat.toDigits 10 port.toNat) =
      some (Nat.toDigits 10 port.toNat) := (stripStart_eq_some _ _ _).mpr rfl
  rw [parseEndpoint_append, text, bracketed_of_closed unclosed, stripped]
  simp [parseU16_toDigits]

theorem parseEndpoint_bracketed_default (unclosed : ']' ∉ host.toList) :
    parseEndpoint (scheme.text ++ ("[" ++ host ++ "]")) =
      (host, scheme.defaultPort, scheme.tls) := by
  have text : ("[" ++ host ++ "]").toList = '[' :: (host.toList ++ ']' :: []) := by simp
  rw [parseEndpoint_append, text, bracketed_of_closed unclosed]
  simp [stripStart]

theorem parseEndpoint_default (noColon : ':' ∉ host.toList)
    (plain : host.toList.head? ≠ some '[') :
    parseEndpoint (scheme.text ++ host) = (host, scheme.defaultPort, scheme.tls) := by
  rw [parseEndpoint_append, bracketed_of_head plain, hostPort_of_notMem noColon]
  simp

end

/-- **Endpoints parse back to what was written**, for every scheme, port and host: with a port
after a host that is no bracket, with and without a port after a host in brackets, and without a
port after a host that has no colon. -/
theorem parseEndpoint_written (host : String) :
    (host.toList.head? ≠ some '[' →
      parseEndpoint (scheme.text ++ (host ++ ":" ++ port.toNat.repr)) =
        (host, port, scheme.tls)) ∧
    (']' ∉ host.toList →
      parseEndpoint (scheme.text ++ ("[" ++ host ++ "]" ++ ":" ++ port.toNat.repr)) =
        (host, port, scheme.tls) ∧
      parseEndpoint (scheme.text ++ ("[" ++ host ++ "]")) =
        (host, scheme.defaultPort, scheme.tls)) ∧
    (':' ∉ host.toList → host.toList.head? ≠ some '[' →
      parseEndpoint (scheme.text ++ host) = (host, scheme.defaultPort, scheme.tls)) := by
  refine ⟨parseEndpoint_hostPort scheme port, fun unclosed => ⟨?_, ?_⟩,
    parseEndpoint_default scheme⟩
  · exact parseEndpoint_bracketed scheme port unclosed
  · exact parseEndpoint_bracketed_default scheme unclosed

/-- An address with colons, with and without brackets, and a name. -/
theorem parseEndpoint_written_examples :
    parseEndpoint "mqtts://fe80::1:8884" = ("fe80::1", 8884, true) ∧
    parseEndpoint "mqtts://[fe80::1]" = ("fe80::1", 8883, true) ∧
    parseEndpoint "mqtt://broker" = ("broker", 1883, false) :=
  ⟨(parseEndpoint_written .mqtts 8884 "fe80::1").1 (by decide),
    ((parseEndpoint_written .mqtts 0 "fe80::1").2.1 (by decide)).2,
    (parseEndpoint_written .mqtt 0 "broker").2.2 (by decide) (by decide)⟩

end BusExporter.Mqtt
