import Garnd.ShmDirectory
import Garnd.ShmFailures
import Garnd.ShmDrop
import Garnd.CircuitBreaker
import Garnd.Framing
import Garnd.Party
import Garnd.Terminal
import Garnd.Reports
import Garnd.Silent
import Garnd.Close
import Garnd.Signals
import Garnd.SignalEvents
import Garnd.Responses
import Garnd.Requests
import Garnd.Calls
import Garnd.AllOrNothing
import Garnd.Staying
import Garnd.Joining
import Garnd.Agreement
import Garnd.Waiting
import Garnd.Quiescence
import Garnd.Privileges
import Garnd.SingleInstance
import Garnd.Restarts
import Garnd.ShmUsage
import Garnd.Memory
import Garnd.Handlers
import Garnd.Service
