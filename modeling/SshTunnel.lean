import SshTunnel.Main
import SshTunnel.Roster.Idle
import SshTunnel.Roster.Sharing
import SshTunnel.Rule.Format
import SshTunnel.Service.Basic
import SshTunnel.Settings.Shown
import SshTunnel.Gateway.Server
import SshTunnel.Service.Clock
import SshTunnel.FileTree
import SshTunnel.Trust.Saving
import SshTunnel.Trust.Resolver
import SshTunnel.Proofs.Bytes.Base64
import SshTunnel.Proofs.Bytes.BigEndian
import SshTunnel.Proofs.Key.Wire
import SshTunnel.Proofs.Key.Public
import SshTunnel.Proofs.Gateway.Session
import SshTunnel.Proofs.Run.HostKey
import SshTunnel.Proofs.Text.Lower
import SshTunnel.Proofs.Text.Pieces
import SshTunnel.Proofs.Trust.File
import SshTunnel.Proofs.Trust.Reopening
import SshTunnel.Proofs.Trust.Saving
import SshTunnel.Proofs.Trust.Lookup
import SshTunnel.Proofs.Trust.Agreement
import SshTunnel.Proofs.Trust.Resolver
import SshTunnel.Proofs.Roster.Accounting
import SshTunnel.Proofs.Service.Steps
import SshTunnel.Proofs.Service.LifeCycle
import SshTunnel.Service.Handle
import SshTunnel.Proofs.Service.Ending
import SshTunnel.Proofs.Service.Finishing
import SshTunnel.Proofs.Service.Course
import SshTunnel.Proofs.Listener.Binding
import SshTunnel.Proofs.Relay.Flow
import SshTunnel.Proofs.Service.Capped
import SshTunnel.Proofs.Service.Draining
import SshTunnel.Proofs.Service.Routing
import SshTunnel.Proofs.Service.Unbound
import SshTunnel.Proofs.Trust.Skipping
import SshTunnel.Proofs.Trust.Neighbours
import SshTunnel.Proofs.Login.Selection
import SshTunnel.Proofs.Gateway.Attempt
import SshTunnel.Proofs.Run.Effects
import SshTunnel.Proofs.Gateway.Hindrance
import SshTunnel.Proofs.Rule.Faults
import SshTunnel.Proofs.Run.Failures
import SshTunnel.Proofs.Run.Unattended
import SshTunnel.Proofs.Service.Serving
import SshTunnel.Proofs.Json.Records
import SshTunnel.Proofs.Settings.RoundTrip
import SshTunnel.Proofs.Trust.Reading
import SshTunnel.Proofs.Trust.Again
import SshTunnel.Proofs.Service.Passage
import SshTunnel.Proofs.Service.Paired
import SshTunnel.Proofs.Trust.Order
import SshTunnel.Proofs.Gateway.Offer
import SshTunnel.Proofs.Key.Armor
import SshTunnel.Proofs.Login.Marked
import SshTunnel.Proofs.Rule.Fields
import SshTunnel.Proofs.Rule.Grammar
import SshTunnel.Proofs.Rule.Rendering
import SshTunnel.Proofs.Rule.Distinct
import SshTunnel.Proofs.Json.Passing
import SshTunnel.Proofs.Json.Written
import SshTunnel.Proofs.Json.Objects
import SshTunnel.Proofs.Settings.Partial
import SshTunnel.Proofs.Settings.Newer
import SshTunnel.Proofs.Trust.KeyLayout
import SshTunnel.Proofs.Roster.Waiting
import SshTunnel.Proofs.Service.Stragglers
import SshTunnel.Proofs.Service.Lingering
import SshTunnel.Proofs.Trust.Consent
