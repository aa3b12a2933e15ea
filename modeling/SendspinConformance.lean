import SendspinConformance.Python.Json
import SendspinConformance.Python.Text
import SendspinConformance.Base.Runs
import SendspinConformance.Protocol.Gate
import SendspinConformance.Protocol.GateBrackets
import SendspinConformance.Protocol.GateWiden
import SendspinConformance.Base.Matching
import SendspinConformance.Protocol.TimeExchange
import SendspinConformance.Protocol.TimeMatching
import SendspinConformance.Adapters.TraceRecorder
import SendspinConformance.Protocol.TimeJudged
import SendspinConformance.Adapters.TraceBrackets
import SendspinConformance.Adapters.ControlMessageRecorder
import SendspinConformance.Adapters.ExchangeHistory
import SendspinConformance.Adapters.ExchangeJudged
import SendspinConformance.Validator.NoncomplianceRefs
import SendspinConformance.Validator.Records
import SendspinConformance.Validator.Checks
import SendspinConformance.Validator.ChecksJudged
import SendspinConformance.Validator.SessionJudged
import SendspinConformance.Validator.CodePairingChecks
import SendspinConformance.Base.Renumbering
import SendspinConformance.Validator.Renumbering
import SendspinConformance.Validator.RenumberedChecks
import SendspinConformance.Validator.RenumberedSuites
import SendspinConformance.Validator.RenumberedCodePairing
import SendspinConformance.Base.Replace
import SendspinConformance.Validator.Recorder
import SendspinConformance.Validator.OutputDelay
import SendspinConformance.Validator.SessionRenumbered
import SendspinConformance.Python.Codecs
import SendspinConformance.Validator.Prompts
import SendspinConformance.Validator.NamesKept
import SendspinConformance.Python.Written
import SendspinConformance.Harness.Regressions
import SendspinConformance.Audio.Pcm
import SendspinConformance.Audio.PcmJudged
import SendspinConformance.Audio.Reencoding
import SendspinConformance.Harness.ChunkFraming
import SendspinConformance.Harness.ChunkHeaders
import SendspinConformance.Adapters.SelectLoops
import SendspinConformance.Adapters.SelectJudged
import SendspinConformance.Base.Grouping
import SendspinConformance.Harness.DeclaredFormats
import SendspinConformance.Harness.FormatsJoined
import SendspinConformance.Adapters.PlayerStream
import SendspinConformance.Adapters.FormatsAgree
import SendspinConformance.Adapters.FragmentsTraced
import SendspinConformance.Validator.ReasonsCited
import SendspinConformance.Adapters.FragmentsInvisible
import SendspinConformance.Base.Programs
import SendspinConformance.Validator.ChecksNamed
import SendspinConformance.Validator.CodePairingSteps
import SendspinConformance.Validator.SuiteSteps
import SendspinConformance.Validator.StepsReported
import SendspinConformance.Validator.CodePairingReported
import SendspinConformance.Base.Numbering
import SendspinConformance.Harness.CasesApart
import SendspinConformance.Validator.ConnectionEvents
import SendspinConformance.Validator.EndsRecorded
import SendspinConformance.Validator.PairingIndexJudged
import SendspinConformance.Validator.Reconnected
import SendspinConformance.Validator.LengthsKept
import SendspinConformance.Validator.VerificationJudged
import SendspinConformance.Harness.ChunkVerdict
import SendspinConformance.Harness.ChunksJudged
import SendspinConformance.Adapters.ArtworkRecorded
import SendspinConformance.Audio.Fixture
import SendspinConformance.Audio.FixtureJudged
import SendspinConformance.Validator.EnteredCodes
import SendspinConformance.Validator.EntryJudged
import SendspinConformance.Validator.SecretsHidden
import SendspinConformance.Validator.RecordsNumbered
import SendspinConformance.Validator.TerminalPrompter
import SendspinConformance.Validator.LinesDelivered
import SendspinConformance.Harness.Merge
import SendspinConformance.Harness.MergeJudged
import SendspinConformance.Adapters.WireMessages
import SendspinConformance.Adapters.TimesAligned
import SendspinConformance.Validator.FramesCrossing
import SendspinConformance.Validator.FollowersCleared
import SendspinConformance.Validator.StoreWaits
import SendspinConformance.Validator.StoreSpared
import SendspinConformance.Validator.StoreSurvives
import SendspinConformance.Base.Slices
import SendspinConformance.Noise.Wire
import SendspinConformance.Noise.Fragments
import SendspinConformance.Base.Keyed
import SendspinConformance.Base.Turns
import SendspinConformance.Noise.FragmentsDelivered
import SendspinConformance.Noise.FragmentsSound
import SendspinConformance.Noise.PairingStore
import SendspinConformance.Noise.PairingsReplaced
import SendspinConformance.Noise.SendLock
import SendspinConformance.Noise.SendsReceived
import SendspinConformance.Noise.StoreCalls
import SendspinConformance.Noise.StoreConsistent
import SendspinConformance.Harness.AudioComparison
import SendspinConformance.Harness.CaseComparison
import SendspinConformance.Harness.CaseConcluded
import SendspinConformance.Harness.CaseFinishes
import SendspinConformance.Harness.CasePasses
import SendspinConformance.Harness.MatrixAccounted
import SendspinConformance.Harness.MatrixCompleted
import SendspinConformance.Validator.SessionReport
import SendspinConformance.Validator.SessionReported
