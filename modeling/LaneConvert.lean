import LaneConvert.Main
import LaneConvert.Proofs.Commands.Configurations
import LaneConvert.Proofs.Commands.Descriptions
import LaneConvert.Proofs.Integer.Saturation
import LaneConvert.Proofs.Library.Concatenation
import LaneConvert.Proofs.Library.Defects
import LaneConvert.Proofs.Library.Visibility
import LaneConvert.Proofs.Preprocessing.Guards
import LaneConvert.Proofs.Qualifiers
