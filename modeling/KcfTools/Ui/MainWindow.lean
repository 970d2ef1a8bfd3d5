import KcfTools.Backend.Refresh
import KcfTools.Ui.RemoteWorkspace

/-! The local tabs: lists that a Refresh rebuilds, the parameter form and the service form. The echo and
the labels are not modelled. -/

namespace KcfTools.MainWindow

open KcfBackend (BackendConnectionState)
open RemoteWorkspace (cells writeCell)

structure ListWidget where
  items : List String := []
  current : Option ℕ := none
deriving DecidableEq

/-- A row outside of the list leaves no current row. -/
def ListWidget.setCurrentRow (l : ListWidget) (row : Option ℕ) : ListWidget :=
  { l with current := row.filter fun i => i < l.items.length }

/-- The last position that passes the test. -/
def lastRow {α : Type} (l : List α) (p : α → Bool) : Option ℕ := (l.findIdxs p).getLast?

def updateList (l : ListWidget) (names : List String) : ListWidget :=
  let selected := (l.current.bind fun i => l.items[i]?).getD ""
  { items := names
    current := if names = [] then none else (lastRow names fun name => name = selected).or (some 0) }

def editedFields (value : DataSnapshot) (inputs : List String) (rows : List (ℕ × Option ℕ)) : DataSnapshot :=
  { value with fields := (rows.zip inputs).foldl writeCell value.fields }

/-- The text of a row. -/
def cellText (value : DataSnapshot) (row : ℕ × Option ℕ) : String :=
  let f := value.fields.getD row.1 {}
  match row.2 with
  | none => f.value
  | some j => f.arrayValues.getD j ""

/-- `editable` tells whether the inputs are enabled, `single` whether the editor below the table is the
input. -/
structure ParameterPanel where
  row : Option ℕ := none
  value : DataSnapshot := {}
  dirty : Bool := false
  invalid : Bool := true
  inputs : List String := []
  rows : List (ℕ × Option ℕ) := []
  editable : Bool := true
  single : Bool := true
  applyEnabled : Bool := true
  refreshEnabled : Bool := true
  revertEnabled : Bool := true

structure ServicePanel where
  row : Option ℕ := none
  template : DataSnapshot := {}
  inputs : List String := []
  rows : List (ℕ × Option ℕ) := []
  callEnabled : Bool := true
  busy : Bool := false

/-- The history of the window, for the statements about runs: the calls of the backend, and what the
handlers assign. -/
inductive Effect
  | refresh (result : ℤ) (connection : BackendConnectionState)
  | list (parameters : List ParameterInfo)
  | select (row : Option ℕ)
  | get (id : EndpointIdentity) (result : ℤ) (value : DataSnapshot)
  | render (value : DataSnapshot)
  | error (action : String) (result : ℤ)
  | validate (id : EndpointIdentity) (value : DataSnapshot) (result : ℤ)
  | set (id : EndpointIdentity) (value : DataSnapshot) (result : ℤ)
  | template (runtime : RuntimeIdentity) (typeId : UInt64) (result : ℤ)
  | validateService (id : EndpointIdentity) (request : DataSnapshot) (result : ℤ)
  | call (id : EndpointIdentity) (request : DataSnapshot)

/-- What the backend answers; a call is numbered by the length of the history before it. -/
structure ToolBackend where
  refresh : ℕ → ℤ
  connection : ℕ → BackendConnectionState
  elements : ℕ → List ElementInfo
  topics : ℕ → List TopicInfo
  parameters : ℕ → List ParameterInfo
  services : ℕ → List ServiceInfo
  typeTemplate : ℕ → RuntimeIdentity → UInt64 → ℤ × DataSnapshot
  validateService : ℕ → EndpointIdentity → DataSnapshot → ℤ
  getParameter : ℕ → EndpointIdentity → ℤ × DataSnapshot
  validateParameter : ℕ → EndpointIdentity → DataSnapshot → ℤ
  setParameter : ℕ → EndpointIdentity → DataSnapshot → ℤ

/-- `log` starts with the latest effect. -/
structure Window where
  elements : List ElementInfo := []
  topics : List TopicInfo := []
  parameters : List ParameterInfo := []
  services : List ServiceInfo := []
  elementList : ListWidget := {}
  topicList : ListWidget := {}
  parameterList : ListWidget := {}
  serviceList : ListWidget := {}
  discoveryRefreshed : Bool := false
  panel : ParameterPanel := {}
  service : ServicePanel := {}
  log : List Effect := []

variable (backend : ToolBackend) (w : Window)

def Window.note (e : Effect) : Window := { w with log := e :: w.log }

def Window.setPanel (p : ParameterPanel) : Window := { w with panel := p }

def Window.setService (p : ServicePanel) : Window := { w with service := p }

section Parameters

def parameter : Option ParameterInfo := w.panel.row.bind fun i => w.parameters[i]?

def writable : Bool := (parameter w).any ParameterInfo.writable

def parameterError (action : String) (result : ℤ) : Window :=
  (w.setPanel { w.panel with invalid := true, applyEnabled := false }).note (.error action result)

/-- The signals of the inputs are ignored meanwhile. -/
def renderParameter (value : DataSnapshot) : Window :=
  let single := value.fields.length = 1 ∧ value.fields.all fun f => f.arrayValues = []
  (w.setPanel
    { w.panel with
      value := value
      dirty := false
      inputs := (cells value.fields).map Prod.snd
      rows := (cells value.fields).map Prod.fst
      editable := !w.panel.invalid && writable w
      single := single
      applyEnabled := false
      revertEnabled := false
      refreshEnabled := true }).note (.render value)

def showValue (value : DataSnapshot) : Window :=
  renderParameter (w.setPanel { w.panel with invalid := false }) value

def readParameter (id : EndpointIdentity) : ℤ × DataSnapshot × Window :=
  let answer := backend.getParameter w.log.length id
  (answer.1, answer.2, w.note (.get id answer.1 answer.2))

def refreshParameterValue : Window :=
  if w.service.busy then w
  else if w.panel.dirty then w
  else match parameter w with
  | none => w
  | some p =>
    let (result, value, w) := readParameter backend w p.identity
    if result ≠ 0 then parameterError w "Get failed" result
    else showValue w value

def clearParameter : Window :=
  (w.setPanel
    { row := w.parameterList.current, value := {}, dirty := w.panel.dirty, invalid := true, inputs := []
      rows := [], editable := false, single := true, applyEnabled := false, refreshEnabled := false
      revertEnabled := false }).note (.select w.parameterList.current)

def showParameter : Window :=
  if w.service.busy then w
  else if w.panel.dirty then { w with parameterList := w.parameterList.setCurrentRow w.panel.row }
  else
    let w := clearParameter w
    match parameter w with
    | none => w
    | some p =>
      if p.typeId = 0 then w
      else refreshParameterValue backend (w.setPanel { w.panel with refreshEnabled := true })

def parameterEdited : Window :=
  let p := w.panel
  let dirty := (p.rows.zip p.inputs).any fun cell => cell.2 ≠ cellText p.value cell.1
  w.setPanel
    { p with
      dirty := dirty
      applyEnabled := dirty && !p.invalid && writable w
      refreshEnabled := !dirty && (parameter w).any fun q => q.typeId ≠ 0
      revertEnabled := dirty }

def revertParameter : Window := if w.panel.row = none then w else renderParameter w w.panel.value

def editedParameter (p : ParameterPanel) : DataSnapshot := editedFields p.value p.inputs p.rows

/-- One row of the fresh value: an edited text replaces the one that was read. -/
def overlayRow (before edited current : DataSnapshot) (row : ℕ × Option ℕ) : Option DataSnapshot :=
  let b := before.fields.getD row.1 {}
  match current.fields.findIdx? fun f => f.name = b.name with
  | none => none
  | some k =>
    let field := current.fields.getD k {}
    if field.kind ≠ b.kind ∨ field.typeName ≠ b.typeName ∨
        field.arrayValues.length ≠ b.arrayValues.length then none
    else if cellText edited row = cellText before row then some current
    else some { current with fields := writeCell current.fields ((k, row.2), cellText edited row) }

/-- The fresh value with the edited elements, unless its type has changed. -/
def overlay (before edited current : DataSnapshot) (rows : List (ℕ × Option ℕ)) : Option DataSnapshot :=
  if current.typeId ≠ before.typeId ∨ current.typeName ≠ before.typeName ∨
      current.fields.length ≠ before.fields.length then none
  else rows.foldlM (overlayRow before edited) current

def eprototype : ℤ := -91

/-- EINVAL, ERANGE and EMSGSIZE. -/
def invalidInput (result : ℤ) : Bool := result = -22 ∨ result = -34 ∨ result = -90

def readBack (id : EndpointIdentity) : Window :=
  let (result, actual, w) := readParameter backend (w.setPanel { w.panel with dirty := false }) id
  if result ≠ 0 then
    let w := parameterError w "Set succeeded but readback failed" result
    w.setPanel { w.panel with refreshEnabled := true }
  else showValue w actual

def storeParameter (id : EndpointIdentity) (value : DataSnapshot) : Window :=
  let result := backend.setParameter w.log.length id value
  let w := w.note (.set id value result)
  if result ≠ 0 then parameterError w "Apply failed; edits not applied" result
  else readBack backend w id

def applyValidated (id : EndpointIdentity) (edited : DataSnapshot) : Window :=
  let (result, current, w) := readParameter backend w id
  if result ≠ 0 then parameterError w "Get before Apply failed" result
  else match overlay w.panel.value edited current w.panel.rows with
  | none => parameterError w "Type changed" eprototype
  | some value => storeParameter backend w id value

def applyParameter : Window :=
  if w.service.busy then w
  else if ¬ w.panel.dirty ∨ w.panel.invalid then w
  else match parameter w with
  | none => w
  | some p =>
    let edited := editedParameter w.panel
    let result := backend.validateParameter w.log.length p.identity edited
    let w := w.note (.validate p.identity edited result)
    if result = 0 then applyValidated backend w p.identity edited
    else if invalidInput result then w
    else parameterError w "Validation failed" result

end Parameters

section Services

def service : Option ServiceInfo := w.service.row.bind fun i => w.services[i]?

def typeTemplate (runtime : RuntimeIdentity) (typeId : UInt64) : ℤ × DataSnapshot × Window :=
  let answer := backend.typeTemplate w.log.length runtime typeId
  (answer.1, answer.2, w.note (.template runtime typeId answer.1))

def renderRequest (request : DataSnapshot) : Window :=
  w.setService
    { w.service with
      template := request
      inputs := (cells request.fields).map Prod.snd
      rows := (cells request.fields).map Prod.fst
      callEnabled := true }

def showService : Window :=
  if w.service.busy then { w with serviceList := w.serviceList.setCurrentRow w.service.row }
  else
    let w := w.setService { row := w.serviceList.current, callEnabled := false }
    match service w with
    | none => w
    | some s =>
      if s.requestTypeId = 0 ∨ s.responseTypeId = 0 then w
      else
        let (result, request, w) := typeTemplate backend w s.identity.runtime s.requestTypeId
        if result ≠ 0 then w
        else
          let (result, _, w) := typeTemplate backend w s.identity.runtime s.responseTypeId
          if result ≠ 0 then w else renderRequest w request

def rowText (name : String) (runtime : RuntimeIdentity) : String :=
  name ++ " [PID " ++ toString runtime.pid ++ "]"

def endpointText (name role : String) (runtime : RuntimeIdentity) : String :=
  name ++ " [" ++ role ++ " PID " ++ toString runtime.pid ++ "]"

/-- The row that a rebuilt list starts with: what was selected before, or at first the first row. -/
def initialRow (had refreshed empty : Bool) : Option ℕ :=
  if had then none else if refreshed ∨ empty then none else some 0

/-- The position of the endpoint that was selected before. -/
def rowOf {α ι : Type} [DecidableEq ι] (l : List α) (identity : α → ι) (previous : Option ι)
    (other : Option ℕ) : Option ℕ :=
  (lastRow l fun x => previous = some (identity x)).or other

def adoptServices : Window :=
  let previous := (service w).map ServiceInfo.identity
  let services := backend.services w.log.length
  let row := rowOf services ServiceInfo.identity previous
    (initialRow previous.isSome w.discoveryRefreshed services.isEmpty)
  let items := services.map fun s => rowText s.name s.identity.runtime
  { w with services := services, serviceList := ListWidget.setCurrentRow { items := items } row }

def updateServices : Window := showService backend (adoptServices backend w)

def startCall (id : EndpointIdentity) (request : DataSnapshot) : Window :=
  (w.note (.call id request)).setService { w.service with busy := true, callEnabled := false }

def callService : Window :=
  if w.service.busy ∨ ¬ w.service.callEnabled then w
  else match service w with
  | none => w
  | some s =>
    let request := editedFields w.service.template w.service.inputs w.service.rows
    let result := backend.validateService w.log.length s.identity request
    let w := w.note (.validateService s.identity request result)
    if result ≠ 0 then w else startCall w s.identity request

def callFinished : Window := w.setService { w.service with busy := false, callEnabled := true }

end Services

section Refresh

/-- Owners first; otherwise the order stays. -/
def sortParameters (parameters : List ParameterInfo) : List ParameterInfo :=
  parameters.insertionSort fun a b => ¬ (b.role = "OWNER" ∧ a.role ≠ "OWNER")

def clearDiscovery : Window :=
  Window.note
    { w with
      elements := [], topics := [], parameters := []
      elementList := updateList w.elementList []
      topicList := updateList w.topicList []
      parameterList := updateList w.parameterList [] } (.list [])

def refreshFailed : Window :=
  let w := showParameter backend (clearDiscovery w)
  let w := showService backend { w with services := [], serviceList := {} }
  { w with discoveryRefreshed := true }

/-- The lists with the rows that were selected before. -/
def adoptDiscovery (element : Option RuntimeIdentity) (topic previous : Option EndpointIdentity) : Window :=
  let elements := backend.elements w.log.length
  let topics := backend.topics w.log.length
  let parameters := sortParameters (backend.parameters w.log.length)
  let elementList := updateList w.elementList (elements.map ElementInfo.name)
  let topicList := updateList w.topicList (topics.map TopicInfo.name)
  let parameterList := updateList w.parameterList (parameters.map ParameterInfo.name)
  let topicTexts := topics.map fun t => endpointText t.name t.role t.identity.runtime
  let parameterTexts := parameters.map fun p => endpointText p.name p.role p.identity.runtime
  Window.note
    { w with
      elements := elements
      topics := topics
      parameters := parameters
      elementList := elementList.setCurrentRow (rowOf elements ElementInfo.identity element none)
      topicList := ListWidget.setCurrentRow { topicList with items := topicTexts }
        (rowOf topics TopicInfo.identity topic
          (initialRow topic.isSome w.discoveryRefreshed topics.isEmpty))
      parameterList := ListWidget.setCurrentRow { parameterList with items := parameterTexts }
        (rowOf parameters ParameterInfo.identity previous
          (initialRow previous.isSome w.discoveryRefreshed parameters.isEmpty)) }
    (.list parameters)

def refreshSucceeded (element : Option RuntimeIdentity) (topic previous : Option EndpointIdentity) : Window :=
  let w := showParameter backend (adoptDiscovery backend w element topic previous)
  { updateServices backend w with discoveryRefreshed := true }

def refresh : Window :=
  if w.service.busy then w
  else if w.panel.dirty then w
  else
    let element := (w.elementList.current.bind fun i => w.elements[i]?).map ElementInfo.identity
    let topic := (w.topicList.current.bind fun i => w.topics[i]?).map TopicInfo.identity
    let previous := (parameter w).map ParameterInfo.identity
    let result := backend.refresh w.log.length
    let connection := backend.connection w.log.length
    let w := (w.setPanel { w.panel with row := none }).note (.refresh result connection)
    if result ≠ 0 ∨ connection ≠ .connected then refreshFailed backend w
    else refreshSucceeded backend w element topic previous

end Refresh

section Events

inductive Tab
  | elements | topics | parameters | services
deriving DecidableEq

/-- The list's current row; a change shows what the row stands for. -/
def setCurrentRow (tab : Tab) (row : Option ℕ) : Window :=
  match tab with
  | .elements => { w with elementList := w.elementList.setCurrentRow row }
  | .topics => { w with topicList := w.topicList.setCurrentRow row }
  | .parameters =>
    let l := w.parameterList.setCurrentRow row
    if l.current = w.parameterList.current then w else showParameter backend { w with parameterList := l }
  | .services =>
    let l := w.serviceList.setCurrentRow row
    if l.current = w.serviceList.current then w else showService backend { w with serviceList := l }

/-- Edits stay before a navigation. -/
def openRow (tab : Tab) (row : Option ℕ) : Window :=
  if w.panel.dirty ∨ row = none then w else setCurrentRow backend w tab row

def editParameter (row : ℕ) (text : String) : Window :=
  let p := w.panel
  if ¬ p.editable ∨ p.inputs.length ≤ row ∨ p.inputs[row]? = some text then w
  else parameterEdited (w.setPanel { p with inputs := p.inputs.set row text })

def editRequest (row : ℕ) (text : String) : Window :=
  w.setService { w.service with inputs := w.service.inputs.set row text }

/-- `pick` chooses a row of a list, `openEndpoint` one of an element's endpoints, `treeItem` one of the
application tree; `openElement` and `openTopic` come from the graph, `enter` from the editor. -/
inductive Event
  | refresh
  | pick (tab : Tab) (row : ℕ)
  | openEndpoint (tab : Tab) (row : ℕ)
  | openElement (id : RuntimeIdentity)
  | openTopic (id : EndpointIdentity)
  | treeItem (row : Option ℕ)
  | edit (row : ℕ) (text : String)
  | refreshValue
  | revert
  | apply
  | enter
  | editRequest (row : ℕ) (text : String)
  | call
  | finished

def act : Event → Window
  | .refresh => refresh backend w
  | .pick tab row => setCurrentRow backend w tab (some row)
  | .openEndpoint tab row => openRow backend w tab (some row)
  | .openElement id => openRow backend w .elements (w.elements.findIdx? fun e => e.identity = id)
  | .openTopic id => openRow backend w .topics (w.topics.findIdx? fun t => t.identity = id)
  | .treeItem row => setCurrentRow backend w .elements row
  | .edit row text => editParameter w row text
  | .refreshValue => if w.panel.refreshEnabled then refreshParameterValue backend w else w
  | .revert => if w.panel.revertEnabled then revertParameter w else w
  | .apply => if w.panel.applyEnabled then applyParameter backend w else w
  | .enter => if w.panel.single && w.panel.editable then applyParameter backend w else w
  | .editRequest row text => editRequest w row text
  | .call => callService backend w
  | .finished => w

/-- The tabs are disabled during a call. -/
def step (e : Event) : Window :=
  if w.service.busy then
    match e with
    | .finished => callFinished w
    | _ => w
  else act backend w e

def run (events : List Event) : Window := events.foldl (step backend) w

/-- The constructor. -/
def start : Window := refresh backend (showParameter backend {})

end Events

end KcfTools.MainWindow
