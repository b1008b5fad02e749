import Pay3.Runs
import Pay3.Tables
import Pay3.Json
import Pay3.Domain
import Pay3.OneNonce
import Pay3.FinalityGate
import Pay3.MinedAttempt
import Pay3.NonceHoles
import Pay3.CollectionCoherence
import Pay3.PaidMeansPaid
import Pay3.CursorProtocol
import Pay3.ConfirmationSoundness
import Pay3.ReorgHealing
import Pay3.LostRecompute
import Pay3.OrdersReflectPayments
import Pay3.CollectionReplay
import Pay3.NothingLeftBehind
import Pay3.TreasuryMoney
import Pay3.BlockQuorum
import Pay3.LaggingProviders
import Pay3.PermitNonces
import Pay3.AuthorizedOnce
import Pay3.StoredFirst
import Pay3.SignedAmounts
import Pay3.MatcherAgreement
import Pay3.ManualVerify
import Pay3.VerifyFindsScanned
import Pay3.CanonicalRequests
import Pay3.AnsweredRequests
import Pay3.WalletCursor
import Pay3.NonceRows
import Pay3.OrdersCreatedOnce
import Pay3.TokenServices
import Pay3.ReceiptLookup
import Pay3.Readiness
import Pay3.TokenRoutes
import Pay3.RelayerKeys
import Pay3.PlaintextKeys
import Pay3.ScannedBatches
import Pay3.ScannerTicks
import Pay3.Rescans
import Pay3.RecordedHeads
import Pay3.ScannerProgress
import Pay3.TransferLogStore
import Pay3.LogStoreSystem
import Pay3.StoredTransfers
import Pay3.FollowedChain
import Pay3.SeededCursors
import Pay3.MatchingSpec
import Pay3.WatchSets
import Pay3.ReplacementFees
import Pay3.QueuedFunds
import Pay3.JsonText
import Pay3.OrderIdentity
import Pay3.TokenAmounts
import Pay3.AbiTuples
import Pay3.CalldataLayout
import Pay3.TokenMetadata
import Pay3.Panics
import Pay3.ProviderPanics
import Pay3.ConfigAliases
import Pay3.HexCodecs
import Pay3.Quantities
import Pay3.BlockTimes
import Pay3.LogPages
import Pay3.RateLimiter
import Pay3.DerivationPaths
import Pay3.MarkedSteps
import Pay3.OrderExpiry
import Pay3.JwtVerification
import Pay3.JwksCache
import Pay3.AuthenticatedCalls
import Pay3.JwksRefreshes
import Pay3.Holdings
import Pay3.MockTokens
import Pay3.MockCollections
import Pay3.WireFormat
import Pay3.HonestPool
import Pay3.FilteredTables
import Pay3.Noninterference
import Pay3.OwnerIsolation
