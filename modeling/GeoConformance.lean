import GeoConformance.Dispatch
import GeoConformance.Encoding
import GeoConformance.Proofs.RoleDispatch
import GeoConformance.Proofs.MetadataConformity
import GeoConformance.Proofs.ObjectConformity
import GeoConformance.Proofs.StrictRun
import GeoConformance.Proofs.CircularDistance
import GeoConformance.Proofs.SeparationMetric
import GeoConformance.Proofs.VisitedGraph
import GeoConformance.Proofs.WorkingList
import GeoConformance.Proofs.CompassPairs
import GeoConformance.Proofs.AxisOrders
import GeoConformance.Proofs.FailureCauses
import GeoConformance.Proofs.CrsAttachments
import GeoConformance.Proofs.MandatoryTexts
import GeoConformance.Proofs.PresenceFaults
import GeoConformance.Proofs.OwnConfiguration
import GeoConformance.Proofs.Reordering
import GeoConformance.Proofs.DoublePlaces
import GeoConformance.Proofs.DoubleProducts
import GeoConformance.Proofs.EllipsoidTolerance
import GeoConformance.Proofs.DoubleValues
import GeoConformance.Proofs.PairRemoval
import GeoConformance.Proofs.EllipsoidShape
import GeoConformance.Proofs.RecordForms
import GeoConformance.Proofs.DoubleRounding
import GeoConformance.Proofs.DoubleScaling
import GeoConformance.Proofs.LengthUnits
import GeoConformance.Proofs.DirectionSymbols
import GeoConformance.Proofs.LowercaseTable
import GeoConformance.Proofs.MemberNames
import GeoConformance.Proofs.WordInitials
import GeoConformance.Proofs.AxisNames
