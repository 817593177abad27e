import BusExporter.Config.MergedMetrics
import BusExporter.Config.Pid
import BusExporter.Config.Serialize
import BusExporter.Config.SplitFiles
import BusExporter.Metrics.LastPublish
import BusExporter.Collector.AnyOrder
import BusExporter.Collector.Backoff
import BusExporter.Collector.DeviceValues
import BusExporter.Collector.ErrorCounters
import BusExporter.Collector.Lifecycle
import BusExporter.Collector.PollCounters
import BusExporter.Collector.PrePoll
import BusExporter.Collector.ReadCounters
import BusExporter.Collector.Reconnect
import BusExporter.Collector.Shutdown
import BusExporter.Collector.Snapshots
import BusExporter.Collector.Ways
import BusExporter.Reader.I2cTransactions
import BusExporter.Reader.I3cAddresses
import BusExporter.Reader.I3cRetries
import BusExporter.Reader.I3cSysfs
import BusExporter.Reader.Validated
import BusExporter.Reader.WordLayout
import BusExporter.Reader.Writers
import BusExporter.Commands.Cuts
import BusExporter.Commands.Graceful
import BusExporter.Commands.Pull
import BusExporter.Commands.Reload
import BusExporter.Commands.Scrapes
import BusExporter.Commands.ShowConfig
import BusExporter.Commands.Unvalidated
import BusExporter.Commands.Watch
import BusExporter.Exporter.FamilyTypes
import BusExporter.Exporter.Endpoint
import BusExporter.Exporter.Mqtt
import BusExporter.Exporter.MqttShutdown
import BusExporter.Exporter.Observed
import BusExporter.Exporter.Payload
import BusExporter.Exporter.ReadBack
import BusExporter.Exporter.Reconnects
import BusExporter.Reader.Modbus.Agreement
import BusExporter.Reader.Modbus.Partition
import BusExporter.Reader.Modbus.Results
import BusExporter.Reader.Modbus.Calls
import BusExporter.Reader.Modbus.Wire
