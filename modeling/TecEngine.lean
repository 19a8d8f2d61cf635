import TecEngine.StdMap
import TecEngine.Double
import TecEngine.Components
import TecEngine.Physics.System
import TecEngine.Physics.Bodies
import TecEngine.Physics.RayCast
import TecEngine.Physics.MousePick
import TecEngine.Physics.Frame
import TecEngine.Physics.World
import TecEngine.Simulation
import TecEngine.Networking.ServerConnection
import TecEngine.User.User
import TecEngine.User.Codec
import TecEngine.Render.RenderList
import TecEngine.Gui.Console
import TecEngine.Gui.CommandLine
import TecEngine.Gui.Commands
import TecEngine.Gui.LogSink
import TecEngine.Client.AspectRatio
import TecEngine.Client.Commands
