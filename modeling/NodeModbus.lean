import NodeModbus.Client.Calls
import NodeModbus.Client.Connection
import NodeModbus.Client.CrcCheck
import NodeModbus.Client.Draining
import NodeModbus.Client.Exceptions
import NodeModbus.Client.ModbusClient
import NodeModbus.Client.Network
import NodeModbus.Client.Reconnect
import NodeModbus.Client.Rejecting
import NodeModbus.Client.ResponseHandler
import NodeModbus.Client.RtuExceptions
import NodeModbus.Client.RtuResponseHandler
import NodeModbus.Request.CoilArray
import NodeModbus.Request.Constructible
import NodeModbus.Request.Reencode
import NodeModbus.Response.RegisterForms
import NodeModbus.Server.Blocking
import NodeModbus.Server.Courses
import NodeModbus.Server.IllegalFunction
import NodeModbus.Server.IllegalValues
import NodeModbus.Server.Observers
import NodeModbus.Server.OutOfRange
import NodeModbus.Server.Protected
import NodeModbus.Server.RegisterReads
import NodeModbus.Server.Resync
import NodeModbus.Server.Sharing
import NodeModbus.Server.ShiftMask
import NodeModbus.Server.Writes
import NodeModbus.Service.Attribution
import NodeModbus.Service.Calm
import NodeModbus.Service.Fresh
import NodeModbus.Service.InTurn
