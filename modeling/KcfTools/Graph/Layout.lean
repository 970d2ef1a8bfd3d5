import KcfTools.Lib.Pictures
import KcfTools.Graph.RemoteFilter

/-! The layout of the graph view: applications with their elements, a column of local endpoints, and below
them the sections of the Hosts. Coordinates are whole numbers; texts, colours and the view are not
modelled. -/

namespace KcfTools.Graph

open Std Pictures

/-- What a frame is drawn around. -/
inductive Section
  | application (group : GraphGroup)
  | host (heading : GraphNode)
deriving DecidableEq

/-- The picture and the height that the next section starts at. -/
structure Drawing where
  picture : Picture GraphNode Section := {}
  y : ℤ := 40

def nodeBox (node : GraphNode) (x top : ℤ) : Box where
  left := x
  top := top
  width := if node.kind = .host then 830 else if node.kind = .element then 270 else 240
  height := if node.kind = .element then 58 else 38

variable (model : GraphModel) (chosen : String)

def Drawing.nodeItem (d : Drawing) (node : GraphNode) (x top : ℤ) : Drawing :=
  { d with picture := d.picture ++ Picture.box node (nodeBox node x top) }

def Drawing.frame (d : Drawing) (s : Section) (f : Box) : Drawing := { d with picture := d.picture.frame s f }

def Drawing.down (d : Drawing) (n : ℤ) : Drawing := { d with y := d.y + n }

def drawElement (group : GraphGroup) (d : Drawing) (node : GraphNode) : Drawing :=
  if node.kind = .element ∧ node.group = group.id then (d.nodeItem node 20 d.y).down 82 else d

def drawApplication (d : Drawing) (group : GraphGroup) : Drawing :=
  if group.host ≠ "" then d
  else if chosen ≠ "" ∧ group.id ≠ chosen then d
  else
    let start := d.y
    let d := model.nodes.foldl (drawElement group) (d.down 30)
    let d := if d.y = start + 30 then d.down 30 else d
    (d.frame (.application group) ⟨0, start - 8, 310, d.y - start + 4⟩).down 24

/-- The column of the local endpoints; a title stands before each kind. -/
structure Column where
  drawing : Drawing
  y : ℤ := 40
  previous : GraphKind := .element

def drawEndpoint (c : Column) (node : GraphNode) : Column :=
  if node.host = "" ∧ node.kind ≠ .element then
    let y := if node.kind ≠ c.previous then c.y + 30 else c.y
    { drawing := c.drawing.nodeItem node 600 y, y := y + 66, previous := node.kind }
  else c

/-- The drawing of one remote application: elements on the left, endpoints from `right` on. -/
structure Columns where
  drawing : Drawing
  right : ℤ

def drawMember (group : GraphGroup) (c : Columns) (node : GraphNode) : Columns :=
  if node.group ≠ group.id then c
  else if node.kind = .element then
    { c with drawing := (c.drawing.nodeItem node 30 c.drawing.y).down 82 }
  else { drawing := c.drawing.nodeItem node 600 c.right, right := c.right + 66 }

def drawRemoteApplication (host : String) (d : Drawing) (group : GraphGroup) : Drawing :=
  if group.host ≠ host then d
  else if chosen ≠ "" ∧ chosen ≠ group.id then d
  else
    let start := d.y
    let c := model.nodes.foldl (drawMember group) ⟨d.down 30, start + 30⟩
    let d := { c.drawing with y := max c.drawing.y c.right }
    (d.frame (.application group) ⟨10, start - 5, 850, d.y - start + 8⟩).down 30

def drawHost (d : Drawing) (host : GraphNode) : Drawing :=
  if host.kind ≠ .host then d
  else
    let start := d.y
    let d := (d.nodeItem host 0 d.y).down 60
    let d := model.groups.foldl (drawRemoteApplication model chosen host.host) d
    (d.frame (.host host) ⟨-10, start - 10, 890, d.y - start + 10⟩).down 40

/-- The local part, with the height below it. -/
def drawLocal : Drawing :=
  let d := model.groups.foldl (drawApplication model chosen) {}
  let c := model.nodes.foldl drawEndpoint { drawing := d }
  { c.drawing with y := max d.y c.y + 30 }

def draw : Drawing := model.nodes.foldl (drawHost model chosen) (drawLocal model chosen)

/-- The box of the node that was drawn last under the id. -/
def Drawing.box (d : Drawing) (id : String) : Option Box :=
  (d.picture.boxes.findRev? fun b => b.1.id = id).map Prod.snd

structure Curve where
  edge : GraphEdge
  start : ℤ × ℤ
  leaving : ℤ × ℤ
  arriving : ℤ × ℤ
  stop : ℤ × ℤ
deriving DecidableEq

def middle (b : Box) : ℤ := b.top + b.height / 2

/-- Verified routes use the right sides of both boxes. -/
def curve (edge : GraphEdge) (source target : Box) (lane : ℤ) : Curve :=
  let forward := source.left < target.left
  let shift := if forward then -7 else 7
  let a := (if edge.networkRoute ∨ forward then source.right else source.left, middle source + shift)
  let b := (if ¬ edge.networkRoute ∧ forward then target.left else target.right, middle target + shift)
  let direction := if edge.networkRoute then -1 else if forward then 1 else -1
  { edge := edge
    start := a
    leaving := (a.1 + if edge.networkRoute then 140 + lane else 110 * direction, a.2)
    arriving := (b.1 - if edge.networkRoute then -110 - lane else 110 * direction, b.2)
    stop := b }

/-- `lanes` counts the verified routes between two nodes. -/
structure Curves where
  lanes : ExtTreeMap (String ×ₗ String) ℕ := ∅
  drawn : List Curve := []

def drawEdge (d : Drawing) (c : Curves) (edge : GraphEdge) : Curves :=
  match d.box edge.source, d.box edge.target with
  | some source, some target =>
    if edge.networkRoute then
      let between := toLex (edge.source, edge.target)
      let n := c.lanes.getD between 0
      ⟨c.lanes.insert between (n + 1), c.drawn ++ [curve edge source target (24 * n)]⟩
    else { c with drawn := c.drawn ++ [curve edge source target 0] }
  | _, _ => c

def drawEdges : List Curve := (model.edges.foldl (drawEdge (draw model chosen)) {}).drawn

end KcfTools.Graph
