import LaneRoute.Main
import LaneRoute.Map.Lanelet
import LaneRoute.Proofs.Goal.Chains
import LaneRoute.Proofs.Goal.Verdict
import LaneRoute.Proofs.Planner.Arrival
import LaneRoute.Proofs.Planner.Seams
import LaneRoute.Proofs.Route.Returns
import LaneRoute.Proofs.Network.Links
import LaneRoute.Proofs.Geometry.Boxes
import LaneRoute.Proofs.Network.Detours
import LaneRoute.Proofs.Network.NearestRoad
import LaneRoute.Proofs.Route.Changes
import LaneRoute.Proofs.Goal.Answers
import LaneRoute.Proofs.Planner.Answers
import LaneRoute.Proofs.Planner.Histories
import LaneRoute.Proofs.Goal.Monotone
import LaneRoute.Proofs.Network.Candidates
import LaneRoute.Proofs.Route.Openings
import LaneRoute.Proofs.Network.Validation
import LaneRoute.Proofs.Routing.Arcs
import LaneRoute.Proofs.Goal.Turns
import LaneRoute.Proofs.Network.Construction
import LaneRoute.Proofs.Network.Rows
import LaneRoute.Proofs.Network.Closest
import LaneRoute.Proofs.Network.Visits
import LaneRoute.Proofs.Geometry.Feet
import LaneRoute.Proofs.Geometry.Headings
import LaneRoute.Proofs.Goal.Elevation
import LaneRoute.Proofs.Goal.Clearance
import LaneRoute.Proofs.Geometry.Circle
import LaneRoute.Proofs.Map.Lanelets
import LaneRoute.Proofs.Planner.Parameters
import LaneRoute.Proofs.Goal.Alignment
import LaneRoute.Proofs.Planner.Markers
import LaneRoute.Proofs.Planner.Footprints
import LaneRoute.Proofs.Goal.Adjacency
import LaneRoute.Proofs.Map.Defects
import LaneRoute.Proofs.Network.Sideways
import LaneRoute.Proofs.Planner.Repeats
import LaneRoute.Proofs.Geometry.Halfway
import LaneRoute.Proofs.Number.Doubles
