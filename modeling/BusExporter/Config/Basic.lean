import BusExporter.Anyhow

/-!
# Configuration

The configuration as the deserializer delivers it. Field values that the types
of the source already bound (`u8`, `u16`, enumerations) are bounded here by the
same types; everything else is left to `Config.validate`.
-/

namespace BusExporter

open Foundation

inductive MetricType where
  | counter
  | gauge
  deriving DecidableEq, Repr

inductive RegisterType where
  | holding
  | input
  | coil
  | discrete
  deriving DecidableEq, Repr

inductive DataType where
  | u8
  | u16
  | i16
  | u32
  | i32
  | f32
  | u64
  | i64
  | f64
  | bool
  deriving DecidableEq, Repr

namespace DataType

/-- The number of 16-bit registers a value occupies. -/
def registerCount : DataType → UInt16
  | u8 | u16 | i16 | bool => 1
  | u32 | i32 | f32 => 2
  | u64 | i64 | f64 => 4

/-- The number of raw bytes a value occupies. -/
def byteSize : DataType → ℕ
  | bool | u8 => 1
  | u16 | i16 => 2
  | u32 | i32 | f32 => 4
  | u64 | i64 | f64 => 8

theorem registerCount_mem (dataType : DataType) :
    1 ≤ dataType.registerCount.toNat ∧ dataType.registerCount.toNat ≤ 4 := by
  cases dataType <;> decide

theorem byteSize_mem (dataType : DataType) :
    1 ≤ dataType.byteSize ∧ dataType.byteSize ≤ 8 := by
  cases dataType <;> decide

end DataType

inductive ByteOrder where
  | bigEndian
  | littleEndian
  | midBigEndian
  | midLittleEndian
  deriving DecidableEq, Repr

/-- One configured metric, with the defaults of the schema. -/
structure MetricConfig where
  name : String
  description : String := ""
  metricType : MetricType
  registerType : Option RegisterType := none
  address : Option UInt16 := none
  dataType : DataType
  byteOrder : ByteOrder := .bigEndian
  scale : Float := 1.0
  offset : Float := 0.0
  unit : String := ""
  /-- SPI only: the bytes to transmit. -/
  command : List UInt8 := []
  /-- SPI only: the total number of response bytes. -/
  responseLength : Option UInt16 := none
  /-- SPI only: response bytes to skip before decoding. -/
  responseOffset : UInt16 := 0
  deriving DecidableEq

/-- The metric has an address, and it fits the one byte of an I2C or I3C register. -/
def MetricConfig.FitsByte (m : MetricConfig) : Prop :=
  ∃ addr, m.address = some addr ∧ addr.toNat ≤ 255

/-- A single byte or a list of bytes. -/
inductive ByteValue where
  | single (byte : UInt8)
  | multi (bytes : List UInt8)
  deriving DecidableEq, Repr

def ByteValue.asBytes : ByteValue → List UInt8
  | single byte => [byte]
  | multi bytes => bytes

/-- A write step: address and value for I2C and I3C, a raw command for SPI. -/
structure WriteStep where
  address : Option UInt8 := none
  value : Option ByteValue := none
  command : Option (List UInt8) := none
  delay : Option Duration := none
  deriving DecidableEq, Repr

inductive Parity where
  | none
  | even
  | odd
  deriving DecidableEq, Repr

inductive Protocol where
  | modbusTcp (endpoint : String)
  | modbusRtu (device : String) (bps : UInt32 := 9600) (dataBits : UInt8 := 8)
      (stopBits : UInt8 := 1) (parity : Parity := .none)
  | i2c (bus : String) (address : UInt8)
  | spi (device : String) (speedHz : UInt32 := 1000000) (mode : UInt8 := 0)
      (bitsPerWord : UInt8 := 8)
  | i3c (bus : String) (pid : Option String := none) (address : Option UInt8 := none)
      (deviceClass : Option String := none) (instanceIndex : Option UInt8 := none)
  deriving DecidableEq, Repr

namespace Protocol

/-- The protocol's name in the configuration and in command output. -/
def toString : Protocol → String
  | modbusTcp .. => "modbus-tcp"
  | modbusRtu .. => "modbus-rtu"
  | i2c .. => "i2c"
  | spi .. => "spi"
  | i3c .. => "i3c"

def isI2c : Protocol → Bool
  | i2c .. => true
  | _ => false

def isSpi : Protocol → Bool
  | spi .. => true
  | _ => false

def isI3c : Protocol → Bool
  | i3c .. => true
  | _ => false

/-- Neither I2C nor SPI nor I3C. -/
def isModbus (protocol : Protocol) : Bool :=
  !protocol.isI2c && !protocol.isSpi && !protocol.isI3c

end Protocol

structure CollectorConfig where
  name : String
  protocol : Protocol
  slaveId : Option UInt8 := none
  pollingInterval : Duration := Duration.ofSecs 10
  initWrites : List WriteStep := []
  prePoll : List WriteStep := []
  labels : HashMap String := ∅
  metricsFiles : Option (List String) := none
  metrics : List MetricConfig := []
  deriving DecidableEq

structure OtlpExporterConfig where
  enabled : Bool := false
  endpoint : Option String := none
  timeout : Duration := Duration.ofSecs 10
  interval : Duration := Duration.ofSecs 10
  headers : HashMap String := ∅
  deriving DecidableEq

structure PrometheusExporterConfig where
  enabled : Bool := false
  listen : String := "0.0.0.0:9090"
  path : String := "/metrics"
  deriving DecidableEq

structure MqttAuthConfig where
  username : String
  password : String
  deriving DecidableEq

structure MqttTlsConfig where
  caCert : Option String := none
  clientCert : Option String := none
  clientKey : Option String := none
  insecure : Bool := false
  deriving DecidableEq

structure MqttExporterConfig where
  enabled : Bool := false
  endpoint : Option String := none
  clientId : Option String := none
  topicPrefix : String := "modbus/metrics"
  auth : Option MqttAuthConfig := none
  tls : Option MqttTlsConfig := none
  qos : UInt8 := 1
  retain : Bool := false
  interval : Duration := Duration.ofSecs 10
  timeout : Duration := Duration.ofSecs 5
  deriving DecidableEq

structure ExportersConfig where
  otlp : Option OtlpExporterConfig := none
  prometheus : Option PrometheusExporterConfig := none
  mqtt : Option MqttExporterConfig := none
  deriving DecidableEq

inductive LogLevel where
  | trace
  | debug
  | info
  | warn
  | error
  deriving DecidableEq, Repr

inductive LogOutput where
  | stdout
  | stderr
  | json
  | syslog
  deriving DecidableEq, Repr

inductive SyslogFacility where
  | daemon
  | local0
  | local1
  | local2
  | local3
  | local4
  | local5
  | local6
  | local7
  deriving DecidableEq, Repr

structure LoggingConfig where
  level : LogLevel := .info
  output : LogOutput := .syslog
  syslogFacility : SyslogFacility := .daemon
  deriving DecidableEq

structure Config where
  globalLabels : HashMap String := ∅
  logging : LoggingConfig := {}
  exporters : ExportersConfig
  collectors : List CollectorConfig
  deriving DecidableEq

end BusExporter
