import Dispatcher.Basic
import Dispatcher.Compute.DApp
import Dispatcher.Compute.VG
import Dispatcher.Compute.DecisionTable
import Dispatcher.Config.Model
import Dispatcher.Config.Concerns
import Dispatcher.Config.Delays
import Dispatcher.Config.Valid
import Dispatcher.Config.Key
import Dispatcher.Startup
