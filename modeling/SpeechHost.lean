import SpeechHost.Audio.Format
import SpeechHost.Audio.LowShelf
import SpeechHost.Audio.Sample
import SpeechHost.Audio.Sink
import SpeechHost.Audio.Wave.Decode
import SpeechHost.Audio.Wave.Encode
import SpeechHost.Audio.WaveFile
import SpeechHost.CommandLine.Arguments
import SpeechHost.CommandLine.Form
import SpeechHost.CommandLine.Reach
import SpeechHost.CommandLine.Request
import SpeechHost.CommandLine.Run
import SpeechHost.Engine.Basic
import SpeechHost.Engine.Command
import SpeechHost.Engine.Error
import SpeechHost.Engine.Espeak
import SpeechHost.Engine.Filter
import SpeechHost.Engine.Launch
import SpeechHost.Engine.Locale
import SpeechHost.Engine.Pico
import SpeechHost.Engine.Playback
import SpeechHost.Environment
import SpeechHost.Install.Attempt
import SpeechHost.Install.Console
import SpeechHost.Install.Error
import SpeechHost.Install.Extract
import SpeechHost.Install.Installer
import SpeechHost.Install.Slot
import SpeechHost.Install.Source
import SpeechHost.Rehearsal.Engine
import SpeechHost.Rehearsal.Sink
import SpeechHost.Rehearsal.StandIn
import SpeechHost.Service
import SpeechHost.Session
import SpeechHost.Settings.Basic
import SpeechHost.Settings.Json
import SpeechHost.Settings.Layer
import SpeechHost.Settings.Load
import SpeechHost.Settings.Toml
import SpeechHost.Settings.Toml.Node
import SpeechHost.Settings.Value
import SpeechHost.Settings.Yaml
import SpeechHost.Settings.Yaml.Cursor
import SpeechHost.Settings.Yaml.Document
import SpeechHost.Settings.Yaml.Node
import SpeechHost.Settings.Yaml.Scalar
import SpeechHost.Settings.Yaml.Token
import SpeechHost.Settings.Yaml.Tokens
import SpeechHost.Storage.Blocks
import SpeechHost.Storage.Disk
import SpeechHost.Storage.Fault
import SpeechHost.Storage.LittleEndian
import SpeechHost.Storage.Path
import SpeechHost.Storage.Program
import SpeechHost.Text.Blank
import SpeechHost.Text.CodePage437
import SpeechHost.Text.CodeRange
import SpeechHost.Text.Decimal
import SpeechHost.Text.Lowercase
import SpeechHost.Text.Lowercase.Table
import SpeechHost.Text.Numeral
import SpeechHost.Text.Quoted
import SpeechHost.Text.Quoted.Table
import SpeechHost.Text.Scan
import SpeechHost.Text.Utf8
import SpeechHost.Voice.Check
import SpeechHost.Voice.Report
import SpeechHost.Voice.Table
import SpeechHost.World
import SpeechHost.Zip.Code
import SpeechHost.Zip.Crc32
import SpeechHost.Zip.Directory
import SpeechHost.Zip.EndRecord
import SpeechHost.Zip.Entry
import SpeechHost.Zip.Error
import SpeechHost.Zip.Inflate
import SpeechHost.Main
import SpeechHost.Proofs.Outcome
import SpeechHost.Proofs.Text.Numeral
import SpeechHost.Proofs.Text.Lowercase
import SpeechHost.Proofs.Storage.Way
import SpeechHost.Proofs.Storage.Walk
import SpeechHost.Proofs.Storage.Spot
import SpeechHost.Proofs.Storage.Request
import SpeechHost.Proofs.Storage.Growth
import SpeechHost.Proofs.Storage.Journal
import SpeechHost.Proofs.Storage.Repeat
import SpeechHost.Proofs.Zip.Stored
import SpeechHost.Proofs.Install.Placement
import SpeechHost.Proofs.Install.File
import SpeechHost.Proofs.Install.Entry
import SpeechHost.Proofs.Install.Survival
import SpeechHost.Proofs.Install.Overlay
import SpeechHost.Proofs.Install.Containment
import SpeechHost.Proofs.Install.Repeat
import SpeechHost.Proofs.Install.Retry
import SpeechHost.Proofs.Install.Threads
import SpeechHost.Proofs.Install.Flight
import SpeechHost.Proofs.Install.Phase
import SpeechHost.Proofs.Install.Team
import SpeechHost.Proofs.Install.Reports
import SpeechHost.Proofs.Install.Closing
import SpeechHost.Proofs.Session.Threads
import SpeechHost.Proofs.Session.Release
import SpeechHost.Proofs.Service.Clients
import SpeechHost.Proofs.Service.Settings
import SpeechHost.Proofs.Engine.Settings
import SpeechHost.Proofs.Engine.Calls
import SpeechHost.Proofs.Session.Calls
import SpeechHost.Proofs.Session.Filter
import SpeechHost.Proofs.Service.Lifecycle
import SpeechHost.Proofs.Audio.Listener
import SpeechHost.Proofs.Audio.Wave
import SpeechHost.Proofs.Audio.WaveHeader
import SpeechHost.Proofs.Audio.Recording
import SpeechHost.Proofs.Engine.Playback
import SpeechHost.Proofs.Engine.Unfiltered
import SpeechHost.Proofs.Engine.Replay
import SpeechHost.Proofs.Engine.Past
import SpeechHost.Proofs.Engine.Unset
import SpeechHost.Proofs.Storage.Scratch
import SpeechHost.Proofs.Engine.Scratch
import SpeechHost.Proofs.Service.Hearing
import SpeechHost.Proofs.Service.Lasting
import SpeechHost.Proofs.Service.Leakage
import SpeechHost.Proofs.Voice.Choice
import SpeechHost.Proofs.Engine.Language
import SpeechHost.Proofs.Service.Language
import SpeechHost.Proofs.Voice.Check
import SpeechHost.Proofs.Install.Console
import SpeechHost.Proofs.Session.Speeches
import SpeechHost.Proofs.Session.Stopping
import SpeechHost.Proofs.Install.Resume
import SpeechHost.Proofs.Voice.Verdict
import SpeechHost.Proofs.Audio.Cut
import SpeechHost.Proofs.Engine.Rejection
import SpeechHost.Proofs.Storage.Making
import SpeechHost.Proofs.Install.Names
import SpeechHost.Proofs.Install.Success
import SpeechHost.Proofs.Engine.Usage
import SpeechHost.Proofs.Engine.Refusal
import SpeechHost.Proofs.Engine.Bystander
import SpeechHost.Proofs.Engine.Start
import SpeechHost.Proofs.Engine.Obedience
import SpeechHost.Proofs.Engine.Markup
import SpeechHost.Proofs.Engine.Options
import SpeechHost.Proofs.Engine.Reported
import SpeechHost.Proofs.Engine.Resolution
import SpeechHost.Proofs.Voice.Growth
import SpeechHost.Proofs.Settings.Layering
import SpeechHost.Proofs.Audio.Blockwise
