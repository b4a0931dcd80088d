import LibSensor.Basic
import LibSensor.Manager.State
import LibSensor.Manager.Ops
import LibSensor.Manager.Step
import LibSensor.Manager.SensorList
import LibSensor.Manager.DynamicSensorList
import LibSensor.Manager.Abort
import LibSensor.Manager.Reconnect
import LibSensor.Manager.Refetch
import LibSensor.Manager.DirectChannel
import LibSensor.Manager.NameCache
import LibSensor.Registry.State
import LibSensor.Registry.Instances
import LibSensor.Registry.Attribution
