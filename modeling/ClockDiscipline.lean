import ClockDiscipline.Acquisition
import ClockDiscipline.Bench
import ClockDiscipline.Calibration
import ClockDiscipline.Config
import ClockDiscipline.Control
import ClockDiscipline.Daemon
import ClockDiscipline.Device.Channel
import ClockDiscipline.Device.File
import ClockDiscipline.Engine.LineFit
import ClockDiscipline.Engine.Median
import ClockDiscipline.Engine.Pid
import ClockDiscipline.Error
import ClockDiscipline.Halt
import ClockDiscipline.Instant
import ClockDiscipline.IoError
import ClockDiscipline.Journal
import ClockDiscipline.Json.Codec
import ClockDiscipline.Json.Reader
import ClockDiscipline.Json.Records
import ClockDiscipline.Json.Value
import ClockDiscipline.LogFilter
import ClockDiscipline.Loop.Correction
import ClockDiscipline.Loop.Readout
import ClockDiscipline.Loop.Run
import ClockDiscipline.Loop.State
import ClockDiscipline.Loop.Turn
import ClockDiscipline.Main
import ClockDiscipline.Number.Binary64
import ClockDiscipline.Number.Decimal
import ClockDiscipline.Number.Exact
import ClockDiscipline.Number.FloatText
import ClockDiscipline.Number.Scalar
import ClockDiscipline.Number.Word
import ClockDiscipline.Oscillator.Dummy
import ClockDiscipline.Pattern.Escape
import ClockDiscipline.Pattern.Flags
import ClockDiscipline.Pattern.Reader
import ClockDiscipline.Pattern.Set
import ClockDiscipline.Phase
import ClockDiscipline.Proofs.Adoption
import ClockDiscipline.Proofs.Answering
import ClockDiscipline.Proofs.Arrivals
import ClockDiscipline.Proofs.BenchCalibration
import ClockDiscipline.Proofs.BenchRows
import ClockDiscipline.Proofs.Beside
import ClockDiscipline.Proofs.CalibrateFirst
import ClockDiscipline.Proofs.CalibrationKept
import ClockDiscipline.Proofs.CalibrationPoints
import ClockDiscipline.Proofs.CalibrationSamples
import ClockDiscipline.Proofs.ControlAuthority
import ClockDiscipline.Proofs.DoubleFit
import ClockDiscipline.Proofs.DoubleOrder
import ClockDiscipline.Proofs.DoubleParts
import ClockDiscipline.Proofs.DoubleSize
import ClockDiscipline.Proofs.Drifts
import ClockDiscipline.Proofs.EngineHalts
import ClockDiscipline.Proofs.ErrorWindow
import ClockDiscipline.Proofs.ExactLine
import ClockDiscipline.Proofs.ExactSteering
import ClockDiscipline.Proofs.FineBounds
import ClockDiscipline.Proofs.HandleLog
import ClockDiscipline.Proofs.Handles
import ClockDiscipline.Proofs.IgnoredSample
import ClockDiscipline.Proofs.JsonText
import ClockDiscipline.Proofs.JumpCalls
import ClockDiscipline.Proofs.JumpOffset
import ClockDiscipline.Proofs.JumpReset
import ClockDiscipline.Proofs.JumpResidue
import ClockDiscipline.Proofs.Kept
import ClockDiscipline.Proofs.Laps
import ClockDiscipline.Proofs.LeastSquares
import ClockDiscipline.Proofs.Linked
import ClockDiscipline.Proofs.Logged
import ClockDiscipline.Proofs.Measured
import ClockDiscipline.Proofs.Mirror
import ClockDiscipline.Proofs.NegatedScript
import ClockDiscipline.Proofs.NegativeFeedback
import ClockDiscipline.Proofs.OptionRow
import ClockDiscipline.Proofs.PhaseHistory
import ClockDiscipline.Proofs.PhaseParts
import ClockDiscipline.Proofs.PidAnswers
import ClockDiscipline.Proofs.PidSteps
import ClockDiscipline.Proofs.PidTurn
import ClockDiscipline.Proofs.PipeSamples
import ClockDiscipline.Proofs.Plant
import ClockDiscipline.Proofs.Respelling
import ClockDiscipline.Proofs.ResultRange
import ClockDiscipline.Proofs.RunKept
import ClockDiscipline.Proofs.Sampling
import ClockDiscipline.Proofs.SetpointRange
import ClockDiscipline.Proofs.SettingLines
import ClockDiscipline.Proofs.SettingLists
import ClockDiscipline.Proofs.SideBySide
import ClockDiscipline.Proofs.StopRequest
import ClockDiscipline.Proofs.Talk
import ClockDiscipline.Proofs.Timeline
import ClockDiscipline.Proofs.TurnCount
import ClockDiscipline.Proofs.TurnForm
import ClockDiscipline.Proofs.TurnRow
import ClockDiscipline.Proofs.TurnTalk
import ClockDiscipline.Proofs.UntrustedPhase
import ClockDiscipline.Receiver
import ClockDiscipline.Rehearsal.Recorder
import ClockDiscipline.Rehearsal.Script
import ClockDiscipline.Rehearsal.Stage
import ClockDiscipline.Rig
import ClockDiscipline.Settings
import ClockDiscipline.Span
import ClockDiscipline.Stop
import ClockDiscipline.Text.Alphanumeric
import ClockDiscipline.Text.Blank
import ClockDiscipline.Text.Bytes
import ClockDiscipline.Text.Combining
import ClockDiscipline.Text.Defused
import ClockDiscipline.Text.Hex
import ClockDiscipline.Text.Quoted
import ClockDiscipline.Text.Unprintable
