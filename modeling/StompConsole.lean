import StompConsole.Text.Basic
import StompConsole.Numeric.Binary
import StompConsole.Numeric.Shortest
import StompConsole.Json.Error
import StompConsole.Json.Value
import StompConsole.Json.Scan
import StompConsole.Json.Read
import StompConsole.Stomp.Command
import StompConsole.Stomp.Frame
import StompConsole.Stomp.Decode
import StompConsole.SockJs.Frame
import StompConsole.Payload.Problem
import StompConsole.Url.Encoding
import StompConsole.Url.Punycode
import StompConsole.Url.Idna
import StompConsole.Url.Host
import StompConsole.Url.Parse
import StompConsole.Client.State
import StompConsole.Client.Config
import StompConsole.Client.Manager
import StompConsole.Client.Controller
import StompConsole.Client.Session
import StompConsole.Client.Runtime
import StompConsole.Client.Transport
import StompConsole.Client.SessionTask
import StompConsole.Terminal.CharTables
import StompConsole.Terminal.Grapheme
import StompConsole.Terminal.Buffer
import StompConsole.Terminal.Widgets
import StompConsole.Toml.Document
import StompConsole.Toml.Read
import StompConsole.Toml.Write
import StompConsole.Console.Screen
import StompConsole.Console.App
import StompConsole.Console.View
import StompConsole.Console.Settings
import StompConsole.Console.Arguments
import StompConsole.Main
import StompConsole.Proofs.Json.Members
import StompConsole.Proofs.Payload.ErrorNotice
import StompConsole.Proofs.Stomp.Escape
import StompConsole.Proofs.Stomp.Reading
import StompConsole.Proofs.Stomp.Wire
import StompConsole.Proofs.Client.Generations
import StompConsole.Proofs.Client.SessionWords
import StompConsole.Proofs.Client.SessionMoves
import StompConsole.Proofs.Client.SessionEvents
import StompConsole.Proofs.Client.Controls
import StompConsole.Proofs.Client.Connect
import StompConsole.Proofs.Client.StaleEvents
import StompConsole.Proofs.Client.Handshake
import StompConsole.Proofs.Console.Alerts
import StompConsole.Proofs.Console.Keys
import StompConsole.Proofs.Stomp.Resend
import StompConsole.Proofs.Stomp.HeartbeatHeader
import StompConsole.Proofs.Json.Literals
import StompConsole.Proofs.Json.Written
import StompConsole.Proofs.SockJs.Frames
import StompConsole.Proofs.Payload.Published
import StompConsole.Proofs.Client.Routing
import StompConsole.Proofs.Stomp.Negotiation
import StompConsole.Proofs.Client.Announcements
import StompConsole.Proofs.Console.Merge
import StompConsole.Proofs.Stomp.Offsets
import StompConsole.Proofs.Console.Log
import StompConsole.Proofs.Url.Normal
import StompConsole.Proofs.Client.Endpoint
