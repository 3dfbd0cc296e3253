import BaseChain.AccountLock
import BaseChain.AssemblerFit
import BaseChain.AssetTokenV1
import BaseChain.AuthBlobs
import BaseChain.B20Debits
import BaseChain.BatchProviderRuns
import BaseChain.BatchSelection
import BaseChain.BatchStreamRuns
import BaseChain.BatcherCoverage
import BaseChain.BlobCodec
import BaseChain.ChannelReadiness
import BaseChain.DenimSchedule
import BaseChain.DerivationSafety
import BaseChain.ExpiringNonces
import BaseChain.FramePruning
import BaseChain.NonEscalation
import BaseChain.NonceManager
import BaseChain.PendingExecution
import BaseChain.PolicyOwnership
import BaseChain.PoolEviction
import BaseChain.SealPipeline
import BaseChain.SelfKeyHome
import BaseChain.ShadowCycle
import BaseChain.SpanBatchPanics
import BaseChain.TrieNodeRuns
