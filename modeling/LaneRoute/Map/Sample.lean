import LaneRoute.Map.Text

/-!
# A sample map

Two lanes heading east, a shoulder beside the last right lane segment, and a parking lot with
a space beside it at the end.
-/

set_option autoImplicit false

namespace LaneRoute.Map

def twoLaneRoad : String :=
"segments:
  - id: 11
    type: road
    left_bound: [[0, 0, 0.0], [30, 0, 0.3]]
    right_bound: [[0, -3.5, 0.0], [30, -3.5, 0.3]]
    successors: [12]
    adj_left: 21
    lane_change_left: true
  - id: 12
    type: road
    left_bound: [[30, 0, 0.3], [60, 0, 0.6]]
    right_bound: [[30, -3.5, 0.3], [60, -3.5, 0.6]]
    successors: [13]
    adj_left: 22
    lane_change_left: true
  - id: 13
    type: road
    left_bound: [[60, 0, 0.6], [90, 0, 0.9]]
    right_bound: [[60, -3.5, 0.6], [90, -3.5, 0.9]]
    adj_left: 23
    adj_right: 31
    lane_change_left: true
  - id: 21
    type: road
    left_bound: [[0, 3.5, 0.0], [30, 3.5, 0.3]]
    right_bound: [[0, 0, 0.0], [30, 0, 0.3]]
    successors: [22]
    adj_right: 11
    lane_change_right: true
  - id: 22
    type: road
    left_bound: [[30, 3.5, 0.3], [60, 3.5, 0.6]]
    right_bound: [[30, 0, 0.3], [60, 0, 0.6]]
    successors: [23]
    adj_right: 12
    lane_change_right: true
  - id: 23
    type: road
    left_bound: [[60, 3.5, 0.6], [90, 3.5, 0.9]]
    right_bound: [[60, 0, 0.6], [90, 0, 0.9]]
    adj_right: 13
    lane_change_right: true
  - id: 31
    type: shoulder
    left_bound: [[60, -3.5, 0.6], [90, -3.5, 0.9]]
    right_bound: [[60, -5.5, 0.6], [90, -5.5, 0.9]]
    adj_left: 13

parking_spaces:
  - id: 201
    linestring: [[95, -12, 0.9], [95, -18, 0.9]]
    width: 2.5

parking_lots:
  - id: 101
    polygon: [[90, -10, 0.9], [110, -10, 0.9], [110, 5, 0.9], [90, 5, 0.9]]
"

end LaneRoute.Map
