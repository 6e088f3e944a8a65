import Catena.FirewallSound
import Catena.LoaderAgain
import Catena.RekeyCrash
import Catena.StoreSchedules
import Catena.DispatchText
import Catena.DispatchHost
import Catena.DispatchFrames
import Catena.DispatchStages
import Catena.DispatchSafe
import Catena.DispatchRuns
import Catena.DispatchSettled
import Catena.DispatchAgain
import Catena.FetchRelease
import Catena.UnpackTree
import Catena.UnpackRefines
import Catena.LinkWalks
import Catena.UnpackKept
import Catena.InstallTrees
import Catena.InstallOutcome
import Catena.FetchImage
import Catena.FetchOutcome
import Catena.FetchEnds
import Catena.FetchRuns
import Catena.FetchResults
import Catena.EmailCode
import Catena.EmailCodeEffects
import Catena.EmailCodeLimits
import Catena.EmailCodeMailed
import Catena.ConvergeManifest
import Catena.ConvergePrune
import Catena.MailSettings
import Catena.SigninFlows
import Catena.InstallerRun
import Catena.InstallerServer
import Catena.InstallerOnce
import Catena.InstallerShown
import Catena.PyWords
import Catena.ZoneSecrets
import Catena.EnvFile
import Catena.OutgoingToken
import Catena.StoreWrite
import Catena.SuppliedValues
import Catena.EnvRoundTrip
import Catena.ChainStack
import Catena.FirewallExact
import Catena.ResticRequests
import Catena.DispatchRefused
import Catena.JsonPaths
import Catena.PyFloats
import Catena.ServiceDrift
import Catena.ServiceTexts
import Catena.ServiceDocker
import Catena.ServiceQuiet
import Catena.ServiceEdits
import Catena.ServiceConverges
import Catena.FlowCleanup
import Catena.ImagePin
import Catena.ImagePinSemVer
import Catena.LatestRelease
import Catena.SigninName
import Catena.LegOutput
import Catena.RegistryTokens
import Catena.AppendKey
import Catena.SessionProof
import Catena.SessionExact
import Catena.PanelService
import Catena.PanelSwarm
import Catena.PanelReconciles
import Catena.ContentNames
import Catena.DnsAnswers
import Catena.Rosters
import Catena.Tier1Roster
import Catena.IpMasks
import Catena.RuleConditions
import Catena.ImageRef
import Catena.ServedZones
import Catena.KnobRegistry
import Catena.KnobTemplate
import Catena.DispatchListed
import Catena.DispatchReports
import Catena.BootstrapDrift
import Catena.ReachabilityHides
