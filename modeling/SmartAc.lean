import SmartAc.Lib.Clock
import SmartAc.Lib.LogLock
import SmartAc.Lib.Machine
import SmartAc.Lib.Numeral
import SmartAc.Lib.SingleCore
import SmartAc.Lib.SlotBound
import SmartAc.Lib.SlotRing
import SmartAc.Lib.Startup
import SmartAc.Lib.TextLines
import SmartAc.Lib.TwoWire
import SmartAc.Messages
import SmartAc.Control
import SmartAc.ControlInv
import SmartAc.Temperature
import SmartAc.ControlTask
import SmartAc.Polling
import SmartAc.WindowHistory
import SmartAc.RecoveryWait
import SmartAc.Transitions
import SmartAc.PowerCycle
import SmartAc.Settling
import SmartAc.ActuatorTask
import SmartAc.Rings
import SmartAc.Pipeline
import SmartAc.UserInput
import SmartAc.Buttons
import SmartAc.EventBatches
import SmartAc.Dht22
import SmartAc.Dht22Pulse
import SmartAc.Dht22Decode
import SmartAc.Dht22Read
import SmartAc.Tm1637Bus
import SmartAc.Tm1637Display
import SmartAc.Bounce
import SmartAc.InvalidSamples
import SmartAc.SensorTask
import SmartAc.EdgeFlags
import SmartAc.TemperatureRange
import SmartAc.Millis
import SmartAc.DisplayTimers
import SmartAc.Monitor
import SmartAc.MonitorLines
import SmartAc.Snapshots
import SmartAc.Boot
import SmartAc.System
import SmartAc.QuietSystem
import SmartAc.CatchUp
import SmartAc.CoolingCause
import SmartAc.DisplayGlass
import SmartAc.Lamps
import SmartAc.DeadTimer
