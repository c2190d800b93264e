import SdkModel.Main
import SdkModel.Proofs.Action.CompositeFields
import SdkModel.Proofs.Action.JsonPaths
import SdkModel.Proofs.Action.LeastOrders
import SdkModel.Proofs.Action.UrlReading
import SdkModel.Proofs.Action.Visibility
import SdkModel.Proofs.Attribute.KeptField
import SdkModel.Proofs.Attribute.OwnTraits
import SdkModel.Proofs.Backend.Lookup
import SdkModel.Proofs.CommandLine.ExitStatus
import SdkModel.Proofs.CommandLine.PlainListings
import SdkModel.Proofs.Config.Precedence
import SdkModel.Proofs.Document.DistinctKeys
import SdkModel.Proofs.Naming.Singular
import SdkModel.Proofs.QaMode.Additions
import SdkModel.Proofs.Reference.Idempotence
import SdkModel.Proofs.Reference.Rejection
import SdkModel.Proofs.Reference.Unguarded
import SdkModel.Proofs.Resource.ReportedOrders
import SdkModel.Proofs.Schema.BrokenCycles
import SdkModel.Proofs.Schema.Depth
import SdkModel.Proofs.Spec.Contract
import SdkModel.Proofs.Spec.EnumAuthority
import SdkModel.Proofs.Spec.ResourceLookup
import SdkModel.Proofs.Spec.SortOrders
import SdkModel.Proofs.Spec.StrictDecoding
import SdkModel.Proofs.Spec.Views
import SdkModel.Proofs.Typed.ClassNames
import SdkModel.Proofs.Typed.EnumReference
import SdkModel.Proofs.Typed.EnumValues
import SdkModel.Proofs.Typed.FilterClasses
import SdkModel.Proofs.Typed.GlobalEnums
import SdkModel.Proofs.Typed.HiddenContent
import SdkModel.Proofs.Typed.HiddenOverrides
import SdkModel.Proofs.Typed.InputTypes
import SdkModel.Proofs.Typed.ListEnum
import SdkModel.Proofs.Typed.MemberNames
import SdkModel.Proofs.Typed.ModelImport
import SdkModel.Proofs.Typed.ModelReference
import SdkModel.Proofs.Typed.OptionalInputs
import SdkModel.Proofs.Typed.SchemaOrder
import SdkModel.Proofs.Typed.ShapedOnce
import SdkModel.Spec.Webhook
