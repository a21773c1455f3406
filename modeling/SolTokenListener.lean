import SolTokenListener.Guarantees.AttemptBudget
import SolTokenListener.Guarantees.BlockLookup
import SolTokenListener.Guarantees.CompiledMessage
import SolTokenListener.Guarantees.CpiParentage
import SolTokenListener.Guarantees.CreationTarget
import SolTokenListener.Guarantees.CursorOrders
import SolTokenListener.Guarantees.DiagnosticCounters
import SolTokenListener.Guarantees.DiscoveryMerge
import SolTokenListener.Guarantees.EntryWindow
import SolTokenListener.Guarantees.FinalityReadiness
import SolTokenListener.Guarantees.HeliusRotation
import SolTokenListener.Guarantees.HttpFailover
import SolTokenListener.Guarantees.IntentFencing
import SolTokenListener.Guarantees.JitoEntry
import SolTokenListener.Guarantees.JitoReceipts
import SolTokenListener.Guarantees.JitoRedemption
import SolTokenListener.Guarantees.JitoSingleFlight
import SolTokenListener.Guarantees.PassiveMention
import SolTokenListener.Guarantees.PayloadCodec
import SolTokenListener.Guarantees.PermitQueue
import SolTokenListener.Guarantees.PreimageInjectivity
import SolTokenListener.Guarantees.ProfileJsonGate
import SolTokenListener.Guarantees.ProviderCarry
import SolTokenListener.Guarantees.PublicKeyExactness
import SolTokenListener.Guarantees.PumpFunQuotes
import SolTokenListener.Guarantees.PumpSwapQuote
import SolTokenListener.Guarantees.ReExitKeys
import SolTokenListener.Guarantees.ReconciliationSoundness
import SolTokenListener.Guarantees.SessionInvariant
import SolTokenListener.Guarantees.SseDelivery
import SolTokenListener.Guarantees.StrictRunLifecycle
import SolTokenListener.Guarantees.TrackedPoolSweeps
