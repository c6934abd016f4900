import CopterOS.MotorCtrl
import Mathlib.Data.List.Induction

open transition

namespace copter.motor_ctrl

end copter.motor_ctrl
