import CopterOS.Lib.Run
import CopterOS.Lib.Projection
import CopterOS.Lib.History
import CopterOS.Lib.Number
import CopterOS.Lib.ClampSum
import CopterOS.Lib.Slots
import CopterOS.Lib.Compaction
import CopterOS.Lib.Unwinding
import CopterOS.Lib.Stores
import CopterOS.Lib.Mutex
import CopterOS.Lib.Ring
import CopterOS.Lib.Latch
import CopterOS.Lib.LowPass
import CopterOS.Lib.Rotation
import CopterOS.Lib.Attitude
import CopterOS.Lib.InverseSqrt
import CopterOS.Lib.OneShot
import CopterOS.Lib.Sampling
import CopterOS.Commander
import CopterOS.Commander.CallOrder
import CopterOS.Commander.Preemption
import CopterOS.RemoteControl
import CopterOS.RemoteControl.Loss
import CopterOS.RemoteControl.PulseWidth
import CopterOS.RemoteControl.Setup
import CopterOS.RcCommander
import CopterOS.RcCommander.Arming
import CopterOS.RcCommander.Thrust
import CopterOS.RcCommander.Sticks
import CopterOS.RemoteControl.Wiring
import CopterOS.Pid
import CopterOS.Controller
import CopterOS.Controller.IntegralLimit
import CopterOS.Motors
import CopterOS.Stabilizer.Power
import CopterOS.MotorCtrl
import CopterOS.MotorCtrl.Guard
import CopterOS.MotorCtrl.Allocation
import CopterOS.MotorCtrl.Wiring
import CopterOS.Stabilizer
import CopterOS.Stabilizer.Finite
import CopterOS.Imu
import CopterOS.Imu.Calibration
import CopterOS.Imu.Window
import CopterOS.Imu.Offset
import CopterOS.Imu.Alignment
import CopterOS.Filter
import CopterOS.Filter.Wrap
import CopterOS.Filter.Settling
import CopterOS.Imu.Accelerometer
import CopterOS.LinuxClient
import CopterOS.LinuxClient.Truthful
import CopterOS.LinuxCommander
import CopterOS.LinuxCommander.Setpoint
import CopterOS.LinuxCommander.Atomicity
import CopterOS.PidCtrl
import CopterOS.Emergency
import CopterOS.Emergency.Landing
import CopterOS.Copter
import CopterOS.Copter.Initialization
import CopterOS.Copter.Isolation
import CopterOS.Copter.Failsafe
import CopterOS.Copter.Axes
import CopterOS.Copter.Quiet
import CopterOS.Copter.RateMode
import CopterOS.PidCtrl.Accesses
import CopterOS.PidCtrl.Preemption
import CopterOS.PidCtrl.Schedule
import CopterOS.Stabilizer.Reset
import CopterOS.Stabilizer.TimeBase
import CopterOS.Stabilizer.YawError
import CopterOS.Stabilizer.AltHold
import CopterOS.Stabilizer.AltHold.Thrust
import CopterOS.Sensfusion6
import CopterOS.Sensfusion6.Norm
import CopterOS.Sensfusion6.Euler
import CopterOS.Sensfusion6.Heading
import CopterOS.Sensfusion6.Windup
import CopterOS.Sensfusion6.Turning
import CopterOS.Sensfusion6.Settling
import CopterOS.Flight
import CopterOS.Flight.Pulses
import CopterOS.Flight.ShortWay
import CopterOS.Flight.Drive
import CopterOS.Flight.Balance
import CopterOS.Flight.Heading
import CopterOS.System
import CopterOS.System.Startup
