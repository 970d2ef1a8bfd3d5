import KcfTools.Ui.Echo
import KcfTools.Ui.MainWindow

/-! The local window as a whole: its lists and forms, the echo with its timer, the explorer, the thread of a
service call, and all their calls of the backend. -/

namespace KcfTools.LocalTabs

open MainWindow (Window Effect Tab)
open EchoView (View ShownTopic)

/-- A call of the backend; `form` is one of the lists and forms. A service call begins and returns in a
thread of its own. -/
inductive Call
  | refresh (result : ℤ)
  | form (e : Effect)
  | startTopicEcho (id : EndpointIdentity) (result : ℤ)
  | readTopicEcho (result : ℤ)
  | stopTopicEcho
  | callService (id : EndpointIdentity) (request : DataSnapshot)
  | returned (status : ℤ)

/-- The thread of a service call; `returned` waits for its slot in the window. -/
inductive Worker
  | idle
  | created (id : EndpointIdentity) (request : DataSnapshot)
  | calling (id : EndpointIdentity) (request : DataSnapshot)
  | returned (status : ℤ)

/-- What the backend answers besides; these calls are numbered by the length of the history before them. -/
structure Backend extends MainWindow.ToolBackend where
  applications : ℕ → List ApplicationInfo
  figures : ℕ → TopicInfo → ShownTopic
  startTopicEcho : ℕ → EndpointIdentity → ℤ
  readTopicEcho : ℕ → ℤ × DataSnapshot
  clock : ℕ → ℤ

/-- What the graph was drawn from. -/
structure Drawn where
  applications : List ApplicationInfo := []
  elements : List ElementInfo := []
  topics : List TopicInfo := []
  parameters : List ParameterInfo := []
  services : List ServiceInfo := []

/-- `explorer` holds the element rows under each application and, last, those under Standalone, `endpoints`
what is listed for the current element. `calls` starts with the latest call. -/
structure Tabs where
  window : Window := {}
  view : View := {}
  drawn : Drawn := {}
  explorer : List (List ℕ) := []
  endpoints : List (Tab × ℕ) := []
  worker : Worker := .idle
  calls : List Call := []

variable (backend : Backend) (t : Tabs)

section Echo

def stopEcho : Tabs := { t with view := EchoView.stopEcho t.view, calls := .stopTopicEcho :: t.calls }

/-- The topic whose echo is tried when it is shown. -/
def tried (v : View) : Option EndpointIdentity :=
  (EchoView.topic v).bind fun t =>
    if t.info.typeId = 0 ∨ t.info.role ≠ "PUBLISHER" ∨ t.info.publishers = [] ∨ v.requiresRefresh then none
    else some t.info.identity

def showTopic : Tabs :=
  if t.window.service.busy then t
  else match tried t.view with
  | none => { t with view := EchoView.showTopic t.view 0, calls := .stopTopicEcho :: t.calls }
  | some id =>
    let result := backend.startTopicEcho (t.calls.length + 1) id
    { t with
      view := EchoView.showTopic t.view result
      calls := .stopTopicEcho :: .startTopicEcho id result :: .stopTopicEcho :: t.calls }

/-- A failed read also stops the echo. -/
def pollEcho : Tabs :=
  if t.view.serviceBusy ∨ ¬ t.view.timer then t
  else
    let read := backend.readTopicEcho t.calls.length
    let calls := .readTopicEcho read.1 :: t.calls
    { t with
      view := EchoView.pollEcho t.view read (backend.clock t.calls.length)
      calls := if read.1 = 0 ∨ read.1 = EchoView.eagain then calls else .stopTopicEcho :: calls }

def startEcho : Tabs :=
  if t.view.serviceBusy ∨ ¬ t.view.startEnabled then t
  else match EchoView.topic t.view with
  | none => t
  | some topic =>
    let result := backend.startTopicEcho t.calls.length topic.info.identity
    let calls := .startTopicEcho topic.info.identity result :: t.calls
    if result ≠ 0 then { t with view := EchoView.failEcho t.view result, calls := .stopTopicEcho :: calls }
    else pollEcho backend { t with view := EchoView.beginEcho t.view topic, calls := calls }

end Echo

section Lists

def Effect.call? : Effect → Option Call
  | .get id result value => some (.form (.get id result value))
  | .validate id value result => some (.form (.validate id value result))
  | .set id value result => some (.form (.set id value result))
  | .template runtime typeId result => some (.form (.template runtime typeId result))
  | .validateService id request result => some (.form (.validateService id request result))
  | _ => none

/-- The calls of the lists and forms between two states of the window. -/
def performed (before after : Window) : List Call :=
  (after.log.take (after.log.length - before.log.length)).filterMap Effect.call?

def element (w : Window) : Option ElementInfo := w.elementList.current.bind fun i => w.elements[i]?

def rowsOf {α : Type} (l : List α) (identity : α → EndpointIdentity) (runtime : RuntimeIdentity) : List ℕ :=
  l.findIdxs fun x => (identity x).runtime = runtime

def showElement (w : Window) : List (Tab × ℕ) :=
  match element w with
  | none => []
  | some e =>
    (rowsOf w.topics TopicInfo.identity e.identity).map (Prod.mk .topics) ++
      (rowsOf w.parameters ParameterInfo.identity e.identity).map (Prod.mk .parameters) ++
        (rowsOf w.services ServiceInfo.identity e.identity).map (Prod.mk .services)

/-- The position of the element's application; Standalone comes after all of them. -/
def home (applications : List ApplicationInfo) (e : ElementInfo) : ℕ :=
  (applications.findIdx? fun a => 0 < e.supervisor.pid ∧ e.supervisor = a.supervisor).getD applications.length

def updateExplorer (applications : List ApplicationInfo) (elements : List ElementInfo) : List (List ℕ) :=
  (List.range (applications.length + 1)).map fun g =>
    (List.range elements.length).filter fun i => (elements[i]?).any fun e => home applications e = g

def adopt (w : Window) : Tabs :=
  { t with
    window := w
    endpoints := if w.elementList.current = t.window.elementList.current then t.endpoints else showElement w
    calls := performed t.window w ++ t.calls }

/-- A Refresh before it shows the topic. -/
def adoptRefresh (result : ℤ) (w : Window) (topics : List ShownTopic) : Tabs :=
  let t := stopEcho t
  { t with
    window := w
    view := { t.view with requiresRefresh := false, topics := topics, row := w.topicList.current }
    calls := .refresh result :: t.calls }

def refresh : Tabs :=
  let result := backend.refresh t.window.log.length
  let connection := backend.connection t.window.log.length
  let w := MainWindow.step backend.toToolBackend t.window .refresh
  let applications :=
    if result ≠ 0 ∨ connection ≠ .connected then [] else backend.applications t.calls.length
  let topics := w.topics.map fun topic => { backend.figures t.calls.length topic with info := topic }
  let shown := showTopic backend (adoptRefresh t result w topics)
  { shown with
    drawn := ⟨applications, w.elements, w.topics, w.parameters, w.services⟩
    explorer := updateExplorer applications w.elements
    endpoints := showElement w
    calls := performed t.window w ++ shown.calls }

/-- The echo is stopped before the thread starts. -/
def beginCall (w : Window) (id : EndpointIdentity) (request : DataSnapshot) : Tabs :=
  let t := stopEcho (adopt t w)
  { t with view := { t.view with serviceBusy := true }, worker := .created id request }

/-- The service call that has begun between two states of the window. -/
def begun (before after : Window) : Option (EndpointIdentity × DataSnapshot) :=
  if before.service.busy ∨ ¬ after.service.busy then none
  else match after.log.head? with
  | some (.call id request) => some (id, request)
  | _ => none

def refreshes : MainWindow.Event → Bool
  | .refresh => !t.window.service.busy && !t.window.panel.dirty
  | _ => false

/-- An event of the lists and forms. -/
def gui (e : MainWindow.Event) : Tabs :=
  if refreshes t e then refresh backend t
  else
    let w := MainWindow.step backend.toToolBackend t.window e
    match begun t.window w with
    | some (id, request) => beginCall t w id request
    | none =>
      let t' := adopt t w
      if w.topicList.current = t.window.topicList.current then t'
      else showTopic backend { t' with view := { t'.view with row := w.topicList.current } }

end Lists

/-- An event of the window that comes from its own widgets; `endpoint` activates an item of the current
element, `tree` one of the explorer. `work` and `respond` are steps of the thread. -/
inductive Event
  | window (e : MainWindow.Event)
  | endpoint (k : ℕ)
  | tree (branch : ℕ) (child : Option ℕ)
  | startEcho
  | stopEcho
  | timer
  | work
  | respond (status : ℤ)
  | finished
  | close

def direct : MainWindow.Event → Bool
  | .finished => false
  | .openEndpoint _ _ => false
  | .treeItem _ => false
  | _ => true

def next : Event → Tabs
  | .window e => if direct e then gui backend t e else t
  | .endpoint k => match t.endpoints[k]? with
    | none => t
    | some (tab, row) => gui backend t (.openEndpoint tab row)
  | .tree branch child =>
    gui backend t (.treeItem (child.bind fun k => (t.explorer[branch]?).bind fun rows => rows[k]?))
  | .startEcho => startEcho backend t
  | .stopEcho => if t.view.stopEnabled then stopEcho t else t
  | .timer => pollEcho backend t
  | .work => match t.worker with
    | .created id request =>
      { t with worker := .calling id request, calls := .callService id request :: t.calls }
    | _ => t
  | .respond status => match t.worker with
    | .calling _ _ => { t with worker := .returned status, calls := .returned status :: t.calls }
    | _ => t
  | .finished => match t.worker with
    | .returned _ =>
      { t with
        window := MainWindow.step backend.toToolBackend t.window .finished
        view := { t.view with serviceBusy := false }
        worker := .idle }
    | _ => t
  | .close => if t.window.service.busy ∨ t.window.panel.dirty then t else stopEcho t

/-- The constructor. -/
def start : Tabs := refresh backend { window := MainWindow.showParameter backend.toToolBackend {} }

def run (events : List Event) : Tabs := events.foldl (next backend) (start backend)

end KcfTools.LocalTabs
