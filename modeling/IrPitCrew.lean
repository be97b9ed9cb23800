import IrPitCrew.Lib.Text
import IrPitCrew.Lib.Run
import IrPitCrew.Lib.Decimal
import IrPitCrew.Lib.OrderStat
import IrPitCrew.Server.WebServer
import IrPitCrew.Client.ParseData
import IrPitCrew.Delta
import IrPitCrew.LapFuel.History
import IrPitCrew.LapFuel.Estimate
import IrPitCrew.LapFuel.Files
import IrPitCrew.Config.Regenerate
import IrPitCrew.Lib.Rounding
import IrPitCrew.Client.ServerData
import IrPitCrew.Client.State
import IrPitCrew.Client.FuelIndicator
import IrPitCrew.Client.TiresIndicator
import IrPitCrew.Client.LapsOfFuelIndicator
import IrPitCrew.Client.PitCrew
import IrPitCrew.Client.FuelToAdd
import IrPitCrew.Plugin.FuelUnits
import IrPitCrew.Plugin.PitCommand
import IrPitCrew.PitMessage
import IrPitCrew.PitFuel
import IrPitCrew.Applied
import IrPitCrew.Plugin.DataMap
import IrPitCrew.Plugin.Session
import IrPitCrew.CurrentConfig
import IrPitCrew.EnoughFuel
import IrPitCrew.LapFuel.Outliers
import IrPitCrew.Plugin.RemainingLaps
import IrPitCrew.LapLimit
import IrPitCrew.Client.AutoApply
import IrPitCrew.Client.FuelSelection
import IrPitCrew.Plugin.LapDetection
import IrPitCrew.PitSession
import IrPitCrew.Snapshot
import IrPitCrew.Server.Threads
import IrPitCrew.FuelShown
import IrPitCrew.LapFuel.Window
import IrPitCrew.Plugin.FuelRequired
import IrPitCrew.Plugin.OptionalPit
import IrPitCrew.LapFuel.RoundTrip
import IrPitCrew.Client.DisplayStrings
import IrPitCrew.Config.OtherCars
import IrPitCrew.Plugin.VarData
import IrPitCrew.UnitsAgree
import IrPitCrew.Client.Buttons
import IrPitCrew.LapFuel.SecondPass
import IrPitCrew.Lib.Timer
import IrPitCrew.FlashTimers
import IrPitCrew.Client.FuelDrawing
import IrPitCrew.Plugin.SessionCars
import IrPitCrew.Plugin.NearestCars
import IrPitCrew.Lib.Outline
import IrPitCrew.Irsdk.YamlParser
import IrPitCrew.Irsdk.Document
import IrPitCrew.Irsdk.SessionInfo
import IrPitCrew.Plugin.ResultsTable
import IrPitCrew.Lib.Ring
import IrPitCrew.Irsdk.NewData
import IrPitCrew.Irsdk.Snapshots
import IrPitCrew.Irsdk.CallEnds
import IrPitCrew.Irsdk.TornRead
import IrPitCrew.Client.Fields
import IrPitCrew.Heartbeat
import IrPitCrew.Client.Drag
import IrPitCrew.Client.Wheels
import IrPitCrew.Lib.Memory
import IrPitCrew.Irsdk.MemServer
import IrPitCrew.Irsdk.Registry
import IrPitCrew.Irsdk.Rows
import IrPitCrew.Irsdk.Clients
import IrPitCrew.Irsdk.SessionText
import IrPitCrew.Lib.Mailbox
import IrPitCrew.PitMailbox
import IrPitCrew.Client.Clock
import IrPitCrew.Lib.Path
import IrPitCrew.Server.Frames
import IrPitCrew.Server.Http
import IrPitCrew.Server.Received
