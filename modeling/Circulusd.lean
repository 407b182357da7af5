import Circulusd.Blob.Presence
import Circulusd.Canonical.Agreement
import Circulusd.Celld.Once
import Circulusd.Host.Migration
import Circulusd.Mcp.Budget
import Circulusd.Mcp.Outcomes
import Circulusd.Mcp.Slot
import Circulusd.ModelGateway.Closure
import Circulusd.NativeStorage.History
import Circulusd.PlatformApi.Streams
import Circulusd.Session.Authority
import Circulusd.Session.PublicEvents
import Circulusd.Session.Revisions
import Circulusd.Workspace.Containment
import Circulusd.Workspace.Diff
