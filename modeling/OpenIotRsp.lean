import OpenIotRsp.Verification.Asn1.BitString
import OpenIotRsp.Verification.Asn1.X509Choice
import OpenIotRsp.Verification.Dataact.CanonicalForm
import OpenIotRsp.Verification.Pki.RootInclusion
import OpenIotRsp.Verification.Profiledownload.ActivationCode
import OpenIotRsp.Verification.Api.DownloadBatch
import OpenIotRsp.Verification.Esipa.Atomicity
import OpenIotRsp.Verification.PackageResult.ReportedSuccess
import OpenIotRsp.Verification.PackageResult.SignatureInput
import OpenIotRsp.Verification.PackageResult.OwnOperation
import OpenIotRsp.Verification.Esipa.Resolution
import OpenIotRsp.Verification.Server.ErrorAnswers
import OpenIotRsp.Verification.Server.UnsignedErrors
import OpenIotRsp.Verification.Server.Preference
import OpenIotRsp.Verification.Relay.Sessions
import OpenIotRsp.Verification.Relay.Transparency
import OpenIotRsp.Verification.Esipa.Reassembly
import OpenIotRsp.Verification.Esipa.Bindings
import OpenIotRsp.Verification.Esipa.Transaction
import OpenIotRsp.Verification.Storage.Import
import OpenIotRsp.Verification.Storage.Equivalence
import OpenIotRsp.Verification.Storage.Tenants
import OpenIotRsp.Verification.Storage.Fallback
import OpenIotRsp.Verification.Storage.Inventory
import OpenIotRsp.Verification.DataRead.Effect
import OpenIotRsp.Verification.Server.Redelivery
import OpenIotRsp.Verification.MockIpa.Managed
