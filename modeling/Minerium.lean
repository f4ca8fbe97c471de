import Minerium.AliasAddresses
import Minerium.AllocationAtomicity
import Minerium.AllocationOps
import Minerium.BlockIndex
import Minerium.BlockOrder
import Minerium.BlockTemplate
import Minerium.CertOwnership
import Minerium.DoubleVoting
import Minerium.Exceptions
import Minerium.InBlockChaining
import Minerium.InBlockIndependence
import Minerium.Interest
import Minerium.Issuance
import Minerium.LockSafety
import Minerium.NonInterference
import Minerium.Overselling
import Minerium.Payloads
import Minerium.PaymentVotes
import Minerium.RangeRun
import Minerium.ServiceCommitment
import Minerium.ServicePrefix
import Minerium.Sporks
import Minerium.Superblocks
import Minerium.Supply
import Minerium.Verify
import Minerium.LockCensorship
import Minerium.RangeAlgebra
import Minerium.AliasWhitelists
import Minerium.OrphanCounter
import Minerium.PrivateSendFees
import Minerium.VoteReferences
import Minerium.RollingBloom
import Minerium.CrashRecovery
