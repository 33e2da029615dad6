import WalletSetup.Address.Endpoint
import WalletSetup.Address.Loopback
import WalletSetup.Bootstrap.Basic
import WalletSetup.Cipher.Token
import WalletSetup.FileTree.Changes
import WalletSetup.FileTree.Directory
import WalletSetup.Json.Printer
import WalletSetup.Json.Reader
import WalletSetup.Log.Journal
import WalletSetup.Main
import WalletSetup.Network
import WalletSetup.Path.Expansion
import WalletSetup.Resolution.Basic
import WalletSetup.Settings.ConfigFile
import WalletSetup.Startup.Reach
import WalletSetup.Toml.Document
import WalletSetup.Wallet.Creation
import WalletSetup.Proofs.Address.Forms
import WalletSetup.Proofs.Bootstrap.Attempts
import WalletSetup.Proofs.Bootstrap.Footprint
import WalletSetup.Proofs.Bootstrap.Privacy
import WalletSetup.Proofs.Bootstrap.Repetition
import WalletSetup.Proofs.Bootstrap.Restoration
import WalletSetup.Proofs.FileTree.Ensuring
import WalletSetup.Proofs.FileTree.Modes
import WalletSetup.Proofs.Log.Routing
import WalletSetup.Proofs.Path.Homes
import WalletSetup.Proofs.Path.NormalForm
import WalletSetup.Proofs.Resolution.DataDirectory
import WalletSetup.Proofs.Resolution.DefaultListeners
import WalletSetup.Proofs.Resolution.Environment
import WalletSetup.Proofs.Resolution.Failures
import WalletSetup.Proofs.Resolution.FilePlace
import WalletSetup.Proofs.Resolution.LevelTable
import WalletSetup.Proofs.Resolution.Listeners
import WalletSetup.Proofs.Resolution.Paths
import WalletSetup.Proofs.Resolution.Routes
import WalletSetup.Proofs.Startup.Crashes
import WalletSetup.Proofs.Startup.Passwords
import WalletSetup.Proofs.Startup.Sessions
import WalletSetup.Proofs.Startup.Success
import WalletSetup.Proofs.Time.Spans
import WalletSetup.Proofs.Wallet.Damage
import WalletSetup.Proofs.Wallet.Sections
