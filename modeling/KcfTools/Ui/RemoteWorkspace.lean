import KcfTools.Model.RemoteControl

/-! The remote tabs: panels, the host selector, pending requests, modal questions and the timer. Labels
and the forms of the selected action are not modelled, nothing reads them. -/

namespace KcfTools.RemoteWorkspace

open Std

inductive Page
  | topic | parameter | service | action
deriving DecidableEq

def Page.all : List Page := [.topic, .parameter, .service, .action]

def Page.kind : Page → String
  | topic => "T"
  | parameter => "P"
  | service => "S"
  | action => "A"

def Page.role : Page → String
  | topic => "PUBLISHER"
  | parameter => "OWNER"
  | service => "SERVER"
  | action => "SERVER"

/-- The operations of the first and of the second button. -/
def Page.operations : Page → RemoteOperation × RemoteOperation
  | topic => (.subscribe, .unsubscribe)
  | parameter => (.get, .set)
  | service => (.prepare, .call)
  | action => (.prepare, .goal)

def key (e : RemoteEndpoint) : String := e.id ++ ":" ++ toString e.session

structure Form where
  data : DataSnapshot := {}
  rows : List (ℕ × Option ℕ) := []
  texts : List String := []
  editable : Bool := false
  dirty : Bool := false
deriving DecidableEq

/-- The rows of one field: its element and its text. -/
def fieldRows (i : ℕ) (f : FieldValue) : List ((ℕ × Option ℕ) × String) :=
  if f.arrayValues = [] then [((i, none), f.value)]
  else f.arrayValues.mapIdx fun j value => ((i, some j), value)

def cells (fields : List FieldValue) : List ((ℕ × Option ℕ) × String) := (fields.mapIdx fieldRows).flatten

def render (d : DataSnapshot) (editable : Bool) : Form :=
  { data := d, rows := (cells d.fields).map Prod.fst, texts := (cells d.fields).map Prod.snd
    editable := editable }

def writeCell (fields : List FieldValue) (cell : (ℕ × Option ℕ) × String) : List FieldValue :=
  fields.modify cell.1.1 fun f =>
    match cell.1.2 with
    | none => { f with value := cell.2 }
    | some j => { f with arrayValues := f.arrayValues.set j cell.2 }

def Form.edited (f : Form) : DataSnapshot :=
  { f.data with fields := (f.rows.zip f.texts).foldl writeCell f.data.fields }

/-- `first` and `second` tell whether the panel's two buttons are enabled. -/
structure Panel where
  selected : RemoteEndpoint := {}
  revision : ℕ := 0
  subscription : ℕ := 0
  busy : Bool := false
  input : Form := {}
  output : Form := {}
  first : Bool := true
  second : Bool := true

structure Pending where
  ticket : ℕ
  command : RemoteCommand
  page : Page
  epoch : ℕ
  revision : ℕ
deriving DecidableEq

structure TopicRate where
  observedAt : ℤ := 0
  packets : UInt64 := 0
  route : UInt64 := 0
  hz : ℚ := -1

/-- What the code does after a modal question, and what it still knows then. `next` is the host and the
endpoint that a graph node leads to. -/
inductive Question
  | host (next : Option (String × String))
  | select (page : Page) (row : ℕ)
  | request (page : Page) (operation : RemoteOperation)
  | configure (hostId : String)
  | close
deriving DecidableEq

inductive Reason
  | invalidated | selected | hostChanged | reconfigured
deriving DecidableEq

/-- The history of the panels, for the statements about runs; the code keeps no such record. -/
inductive Notice
  | asked (question : Question)
  | confirmed (question : Question)
  | edited (page : Page) (row : ℕ) (text : String)
  | cleared (page : Page) (reason : Reason)
  | submitted (entry : Pending)
  | applied (entry : Pending) (reply : RemoteReply) (selected : RemoteEndpoint) (epoch : ℕ)
deriving DecidableEq

/-- `hosts` and `hostIndex` are the host selector, `rows` the current rows of the lists, `sent` the
calls of `SubmitRemote` so far; a ticket is a position there. `log` starts with the latest notice. After
`fault` the code has read outside of `choices`. -/
structure Workspace where
  epoch : ℕ := 0
  configuring : Bool := false
  closing : Bool := false
  closed : Bool := false
  configurationShutdown : Bool := false
  snapshot : NetworkSnapshot := {}
  hostSelected : String := ""
  hosts : List String := [""]
  hostIndex : Option ℕ := some 0
  panels : Page → Panel := fun _ => {}
  choices : Page → List RemoteEndpoint := fun _ => []
  rows : Page → Option ℕ := fun _ => none
  pending : List Pending := []
  polling : Option ℕ := none
  pollEpoch : ℕ := 0
  activities : ExtTreeMap ℕ RemoteActivity := ∅
  activityItems : List ℕ := []
  activity : Option ℕ := none
  cancelEnabled : Bool := true
  rates : ExtTreeMap ℕ TopicRate := ∅
  timeoutMs : UInt32 := 1000
  trackingMs : UInt32 := 60000
  ticks : ℕ := 0
  question : Option Question := none
  fault : Bool := false
  sent : List RemoteCommand := []
  log : List Notice := []

variable (w : Workspace)

def Workspace.note (n : Notice) : Workspace := { w with log := n :: w.log }

def Workspace.setPanel (page : Page) (p : Panel) : Workspace :=
  { w with panels := Function.update w.panels page p }

def Workspace.ask (q : Question) : Workspace := ({ w with question := some q }).note (.asked q)

def submitRemote (c : RemoteCommand) : Workspace := { w with sent := w.sent ++ [c] }

def dirty : Bool := Page.all.any fun page => (w.panels page).input.dirty

def Panel.clear (p : Panel) : Panel :=
  { p with revision := p.revision + 1, selected := {}, input := render {} false, output := render {} false }

def clear (page : Page) (reason : Reason) : Workspace :=
  (w.setPanel page (w.panels page).clear).note (.cleared page reason)

def current (e : RemoteEndpoint) : Bool :=
  w.snapshot.hosts.any fun h =>
    h.id = e.identity.hostId ∧ h.bootId = e.identity.bootId ∧ h.session = e.session ∧ h.state = "ONLINE" ∧
      h.compatibility = "COMPATIBLE" ∧ h.metadataReady ∧
        h.endpoints.any fun v => v.id = e.id ∧ v.session = e.session

def currentData : String := (w.hostIndex.bind fun i => w.hosts[i]?).getD ""

def findData (hosts : List String) (host : String) : Option ℕ := hosts.findIdx? fun h => h = host

/-- The selected host in the snapshot; a later entry hides an earlier one. -/
def selectedHost : Option RemoteHost := w.snapshot.hosts.findRev? fun h => h.id = w.hostSelected

def offered (page : Page) : List RemoteEndpoint :=
  match selectedHost w with
  | some h => h.endpoints.filter fun e => e.kind = page.kind
  | none => []

/-- The last position with the key. -/
def rowOf (choices : List RemoteEndpoint) (k : String) : Option ℕ :=
  (choices.findIdxs fun e => key e = k).getLast?

def populatePage (page : Page) : Workspace :=
  let p := w.panels page
  let choices := offered w page
  let selected := rowOf choices (key p.selected)
  let w := { w with choices := Function.update w.choices page choices
                    rows := Function.update w.rows page selected }
  if p.selected.id ≠ "" ∧ (¬ current w p.selected ∨ selected = none) then clear w page .invalidated else w

def populate : Workspace := Page.all.foldl populatePage w

def submit (page : Page) (c : RemoteCommand) : Workspace :=
  let p := w.panels page
  let entry : Pending := ⟨w.sent.length, c, page, w.epoch, p.revision⟩
  let w := submitRemote w c
  (({ w with pending := w.pending ++ [entry] }).setPanel page { p with busy := true }).note (.submitted entry)

def requestConfirmed (page : Page) (operation : RemoteOperation) : Workspace :=
  let p := w.panels page
  let c : RemoteCommand :=
    { operation := operation, endpoint := p.selected, timeoutMs := w.timeoutMs, trackingMs := w.trackingMs
      input := p.input.edited, handle := p.subscription }
  if operation = .subscribe ∧ p.subscription ≠ 0 then w else submit w page c

def request (page : Page) (operation : RemoteOperation) : Workspace :=
  if (w.panels page).busy then w
  else if (operation = .get ∨ operation = .prepare) ∧ (w.panels page).input.dirty then
    w.ask (.request page operation)
  else requestConfirmed w page operation

def unsubscribeCommand (handle : ℕ) : RemoteCommand := { operation := .unsubscribe, handle := handle }

/-- The cleanup of a panel's subscription. -/
def release (page : Page) : Workspace :=
  let p := w.panels page
  if p.subscription ≠ 0 then
    (submitRemote w (unsubscribeCommand p.subscription)).setPanel page { p with subscription := 0 }
  else w

def selectConfirmed (page : Page) (row : ℕ) : Workspace :=
  let w := clear (release w page) page .selected
  match (w.choices page)[row]? with
  | none => { w with fault := true }
  | some e =>
    let w := w.setPanel page { w.panels page with selected := e }
    if page ≠ .topic ∧ current w e ∧ w.snapshot.remoteControlAvailable ∧ e.scope = "REMOTE" then
      request w page (if page = .parameter then .get else .prepare)
    else w

def select (page : Page) (row : ℕ) : Workspace :=
  if (w.choices page).length ≤ row then w
  else if (w.panels page).input.dirty then w.ask (.select page row)
  else selectConfirmed w page row

def selectRefused (page : Page) : Workspace :=
  match rowOf (w.choices page) (key (w.panels page).selected) with
  | none => w
  | some row => { w with rows := Function.update w.rows page (some row) }

/-- The list's current row; a change selects. -/
def setCurrentRow (page : Page) (row : ℕ) : Workspace :=
  if w.rows page = some row then w
  else select { w with rows := Function.update w.rows page (some row) } page row

def navigate (id : String) : Workspace :=
  match Page.all.find? fun page => (w.choices page).any fun e => e.id = id with
  | none => w
  | some page => setCurrentRow w page ((w.choices page).findIdx fun e => e.id = id)

/-- The rest of a jump from the graph. -/
def resume (next : Option (String × String)) : Workspace :=
  match next with
  | none => w
  | some (host, id) => if w.hostSelected ≠ host then w else navigate w id

def leavePage (page : Page) : Workspace := clear (release w page) page .hostChanged

def hostConfirmed : Workspace :=
  populate (Page.all.foldl leavePage { w with hostSelected := currentData w })

def hostRefused : Workspace := { w with hostIndex := findData w.hosts w.hostSelected }

def hostChanged (next : Option (String × String)) : Workspace :=
  if w.hostSelected = currentData w then resume w next
  else if dirty w then w.ask (.host next)
  else resume (hostConfirmed w) next

/-- The selector's current index; a change is handled at once. -/
def setHostIndex (index : ℕ) (next : Option (String × String)) : Workspace :=
  if w.hostIndex = some index then resume w next
  else hostChanged { w with hostIndex := some index } next

def openRemote (host : String) (endpoint : Option String) : Workspace :=
  match findData w.hosts host with
  | none => w
  | some index => setHostIndex w index (endpoint.map fun id => (host, id))

def isHex (c : Char) : Bool := c.isDigit ∨ 'a' ≤ c ∧ c ≤ 'f'

def validHostId (id : String) : Bool :=
  id = "" ∨ (id.length = 32 ∧ id.toList.all isHex ∧ ¬ id.toList.all fun c => c = '0')

def detachPage (page : Page) : Workspace :=
  let w := clear w page .reconfigured
  w.setPanel page { w.panels page with subscription := 0 }

def detach (_ : ℕ) (a : RemoteActivity) : RemoteActivity :=
  { a with communicationLost := true, executionUnknown := !a.terminal }

def configureConfirmed (shutdown : Bool) (hostId : String) : Workspace :=
  if ¬ shutdown ∧ ¬ validHostId hostId then w
  else
    let w := Page.all.foldl detachPage { w with epoch := w.epoch + 1 }
    { w with activities := w.activities.map detach, configurationShutdown := shutdown, configuring := true }

def configure (shutdown : Bool) (hostId : String) : Workspace :=
  if w.configuring then w
  else if ¬ shutdown ∧ dirty w then w.ask (.configure hostId)
  else configureConfirmed w shutdown hostId

def closeConfirmed : Workspace := configure { w with closing := true } true ""

def unavailable : Bool := "disabled / unavailable".toList <:+: w.snapshot.status.toList

def beginClose : Workspace :=
  if w.closed then w
  else if ¬ w.configuring ∧ w.pending = [] ∧ unavailable w then w
  else if dirty w then w.ask .close
  else closeConfirmed w

def showActivity : Workspace :=
  match w.activity with
  | none => { w with cancelEnabled := false }
  | some h =>
    match w.activities[h]? with
    | none => w
    | some a =>
      let a := { a with communicationLost := a.communicationLost || !current w a.endpoint }
      { w with
        activities := w.activities.insert h a
        cancelEnabled := w.snapshot.remoteControlAvailable && !a.terminal && !a.communicationLost &&
          !w.configuring && !w.closing && !(w.panels .action).busy }

def cancelSelected : Workspace :=
  if (w.panels .action).busy then w
  else match w.activity.bind fun h => (w.activities[h]?).map fun a => (h, a) with
    | none => w
    | some (h, a) =>
      if a.communicationLost ∨ a.terminal then w
      else submit w .action
        { operation := .cancel, endpoint := a.endpoint, handle := h, timeoutMs := w.timeoutMs }

/-- A cell keeps its text, or it takes the new one and marks the form. -/
def editCell (page : Page) (row : ℕ) (text : String) : Workspace :=
  let p := w.panels page
  let f := p.input
  if ¬ f.editable ∨ f.texts.length ≤ row ∨ f.texts[row]? = some text then w
  else (w.setPanel page { p with input := { f with texts := f.texts.set row text, dirty := true } }).note
    (.edited page row text)

/-- What a reply without error does to its panel. -/
def applyReply (operation : RemoteOperation) (r : RemoteReply) (p : Panel) : Panel :=
  match operation with
  | .prepare => { p with input := render r.value true }
  | .get => { p with input := render r.value true }
  | .set =>
    if r.readbackError = 0 then { p with input := render r.value true, output := render r.value false }
    else { p with input := render {} false, output := render {} false }
  | .call => { p with output := render r.value false, input := { p.input with dirty := false } }
  | .goal => { p with input := { p.input with dirty := false } }
  | .subscribe => { p with subscription := r.handle }
  | .unsubscribe => { p with subscription := 0, output := render {} false }
  | .cancel => p
  | .poll => p

/-- A reply may change its panel. -/
def applies (entry : Pending) (r : RemoteReply) : Bool :=
  entry.epoch = w.epoch ∧ entry.revision = (w.panels entry.page).revision ∧
    (entry.command.operation = .unsubscribe ∨ current w entry.command.endpoint) ∧ r.error = 0

def settle (entry : Pending) : Workspace :=
  ({ w with pending := w.pending.erase entry }).setPanel entry.page { w.panels entry.page with busy := false }

def startedActivity (entry : Pending) (r : RemoteReply) : RemoteActivity :=
  { handle := r.handle, endpoint := entry.command.endpoint, accepted := r.responseReceived && r.error = 0
    executionUnknown := r.executionUnknown }

def recordGoal (entry : Pending) (r : RemoteReply) : Workspace :=
  if entry.epoch = w.epoch ∧ entry.command.operation = .goal ∧ r.handle ≠ 0 then
    { w with activities := w.activities.insert r.handle (startedActivity entry r) }
  else w

/-- A subscription that comes too late for its panel is given up. -/
def dropStale (entry : Pending) (r : RemoteReply) : Workspace :=
  if entry.epoch = w.epoch ∧ entry.revision ≠ (w.panels entry.page).revision ∧
      entry.command.operation = .subscribe ∧ r.handle ≠ 0 then
    submitRemote w (unsubscribeCommand r.handle)
  else w

def receive (entry : Pending) (r : RemoteReply) : Workspace :=
  let w := dropStale (recordGoal (settle w entry) entry r) entry r
  let p := w.panels entry.page
  if applies w entry r then
    (w.setPanel entry.page (applyReply entry.command.operation r p)).note
      (.applied entry r p.selected w.epoch)
  else w

/-- What a tick finds: the network, the requests that are ready by ticket, the end of a configuration. -/
structure TickInput where
  snapshot : NetworkSnapshot := {}
  ready : ℕ → Option RemoteReply := fun _ => none
  configured : Bool := false

def receiveReady (ready : ℕ → Option RemoteReply) (w : Workspace) (entry : Pending) : Workspace :=
  match ready entry.ticket with
  | none => w
  | some r => receive w entry r

def replies (ready : ℕ → Option RemoteReply) : Workspace := w.pending.foldl (receiveReady ready) w

def rebuildHosts : Workspace :=
  let ids := "" :: w.snapshot.hosts.map RemoteHost.id
  match findData ids w.hostSelected with
  | some i => { w with hosts := ids, hostIndex := some i }
  | none => { w with hosts := ids ++ [w.hostSelected], hostIndex := some ids.length }

def observe (input : TickInput) : Workspace :=
  let w := { w with snapshot := input.snapshot }
  if w.activity = none then w else showActivity w

def countTick : Workspace := { w with ticks := w.ticks + 1 }

/-- The part of a tick before the replies. -/
def refresh (input : TickInput) : Workspace :=
  let w := countTick (observe w input)
  if w.ticks % 5 = 0 then populate (rebuildHosts w) else w

def seconds (dt : ℤ) : ℚ := dt / 1000000000

def measure (rate : TopicRate) (a : RemoteActivity) : TopicRate :=
  let rate :=
    if rate.observedAt = 0 ∨ rate.route ≠ a.routeId ∨ a.receivedPackets < rate.packets then
      ⟨a.observedAt, a.receivedPackets, a.routeId, -1⟩
    else rate
  let dt := seconds (a.observedAt - rate.observedAt)
  if 1 / 2 ≤ dt then
    { rate with hz := (a.receivedPackets - rate.packets).toNat / dt, observedAt := a.observedAt
                packets := a.receivedPackets }
  else rate

def measured (a : RemoteActivity) : Workspace :=
  if a.state = 1 ∧ ¬ a.communicationLost then
    { w with rates := w.rates.insert a.handle (measure (w.rates.getD a.handle {}) a) }
  else { w with rates := w.rates.erase a.handle }

/-- A topic's activity changes the output of the panel that holds its handle. -/
def reportTopic (a : RemoteActivity) : Workspace :=
  let p := w.panels .topic
  if p.subscription ≠ a.handle then w
  else
    let w := measured w a
    if a.hasValue then w.setPanel .topic { p with output := render a.feedback false }
    else if a.communicationLost ∨ a.terminal then
      ({ w with rates := w.rates.erase a.handle }).setPanel .topic { p with output := render {} false }
    else w

def report (w : Workspace) (a : RemoteActivity) : Workspace :=
  if a.topic then reportTopic w a else { w with activities := w.activities.insert a.handle a }

/-- At most 128 activities stay while some of them have ended. -/
def trim (activities : ExtTreeMap ℕ RemoteActivity) : ExtTreeMap ℕ RemoteActivity :=
  activities.toList.foldl (fun kept a =>
    if 128 < kept.size ∧ (a.2.terminal ∨ a.2.communicationLost) then kept.erase a.1 else kept) activities

def listActivities : Workspace :=
  let activities := trim w.activities
  showActivity { w with
    activities := activities
    activityItems := activities.keys
    activity := w.activity.filter fun h => h ∈ activities.keys }

def pollReply (ready : ℕ → Option RemoteReply) : Workspace :=
  match w.polling.bind ready with
  | none => w
  | some r =>
    let w := { w with polling := none }
    listActivities
      (if w.pollEpoch = w.epoch ∧ ¬ w.configuring ∧ ¬ w.closing then r.activities.foldl report w else w)

def poll : Workspace :=
  if w.ticks % 5 = 0 ∧ w.polling = none ∧ w.snapshot.networkClientAvailable ∧ ¬ w.configuring ∧
      ¬ w.closing then
    submitRemote { w with pollEpoch := w.epoch, polling := some w.sent.length } { operation := .poll }
  else w

def enableButtons (page : Page) (p : Panel) : Panel :=
  let available :=
    if page = .topic then w.snapshot.networkClientAvailable else w.snapshot.remoteControlAvailable
  let live := current w p.selected && p.selected.scope = "REMOTE" && available && !p.busy &&
    !w.configuring && !w.closing && p.selected.role = page.role
  if page = .topic then
    { p with first := live && p.subscription = 0
             second := p.subscription ≠ 0 && !p.busy && !w.configuring }
  else { p with first := live, second := live && p.input.data.fields ≠ [] }

def enable : Workspace := { w with panels := fun page => enableButtons w page (w.panels page) }

def configured (input : TickInput) : Workspace :=
  if w.configuring ∧ input.configured then { w with configuring := false } else w

/-- A configuration that ends while the window closes leaves the rest of the tick out. -/
def tick (input : TickInput) : Workspace :=
  if w.configuring ∧ input.configured ∧ w.closing then
    if w.configurationShutdown then { configured w input with closed := true }
    else configure (configured w input) true ""
  else
    let w := refresh (configured w input) input
    enable (poll (pollReply (replies w input.ready) input.ready))

inductive Event
  | tick (input : TickInput)
  | answer (yes : Bool)
  | pickHost (index : ℕ)
  | pickRow (page : Page) (row : ℕ)
  | navigate (id : String)
  | openRemote (host : String) (endpoint : Option String)
  | press (page : Page) (second : Bool)
  | cancel
  | pickActivity (handle : ℕ)
  | edit (page : Page) (row : ℕ) (text : String)
  | times (timeoutMs trackingMs : UInt32)
  | apply (hostId : String)
  | close

def Event.isTick : Event → Bool
  | .tick _ => true
  | _ => false

def press (page : Page) (second : Bool) : Workspace :=
  if second then (if (w.panels page).second then request w page page.operations.2 else w)
  else if (w.panels page).first then request w page page.operations.1 else w

/-- An answer takes the code up where it asked. -/
def answer (q : Question) (yes : Bool) : Workspace :=
  let w := { w with question := none }
  if yes then
    let w := w.note (.confirmed q)
    match q with
    | .host next => resume (hostConfirmed w) next
    | .select page row => selectConfirmed w page row
    | .request page operation => requestConfirmed w page operation
    | .configure hostId => configureConfirmed w false hostId
    | .close => closeConfirmed w
  else
    match q with
    | .host next => resume (hostRefused w) next
    | .select page _ => selectRefused w page
    | _ => w

/-- While a question is open, only ticks and the answer happen. -/
def step (e : Event) : Workspace :=
  match w.question, e with
  | _, .tick input => tick w input
  | some q, .answer yes => answer w q yes
  | some _, _ => w
  | none, .answer _ => w
  | none, .pickHost index => if index < w.hosts.length then setHostIndex w index none else w
  | none, .pickRow page row => if row < (w.choices page).length then setCurrentRow w page row else w
  | none, .navigate id => navigate w id
  | none, .openRemote host endpoint => openRemote w host endpoint
  | none, .press page second => press w page second
  | none, .cancel => if w.cancelEnabled then cancelSelected w else w
  | none, .pickActivity handle =>
    if handle ∈ w.activityItems ∧ w.activity ≠ some handle then
      showActivity { w with activity := some handle }
    else w
  | none, .edit page row text => editCell w page row text
  | none, .times timeoutMs trackingMs => { w with timeoutMs := timeoutMs, trackingMs := trackingMs }
  | none, .apply hostId => configure w false hostId
  | none, .close => beginClose w

/-- The constructor ends with a tick. -/
def start (input : TickInput) : Workspace := tick {} input

def run (events : List Event) : Workspace := events.foldl step w

end KcfTools.RemoteWorkspace
