import KcfTools.Backend.RemoteRuntime

/-! The bounded queue between the callers of `Submit` and the one worker that executes their commands.
A future is known by the number of the call that returned it. -/

namespace KcfTools

def ecanceled : ℤ := -125
def eagain : ℤ := -11
def eio : ℤ := -5

/-- A future that is ready at once. -/
def remoteUnavailable (error : ℤ) : RemoteReply := { error := error }

namespace RemoteExecutor

structure Job where
  ticket : ℕ
  command : RemoteCommand
deriving DecidableEq

/-- Between two turns at the lock the worker waits, holds a job it has taken, executes it, or has
returned. -/
inductive Worker
  | waiting
  | holding (job : Job)
  | executing (job : Job)
  | ended
deriving DecidableEq

/-- The history, for the statements about runs; the code keeps no such record. `submitted` tells what
the call found, `finished` what `Execute` did, `stopSeen` the jobs that were still in the queue. -/
inductive Notice
  | submitted (job : Job) (stopping : Bool) (queued : ℕ)
  | started (job : Job)
  | finished (job : Job) (reply : Option RemoteReply)
  | stopSeen (left : List Job)
  | answered (ticket : ℕ) (reply : RemoteReply)
deriving DecidableEq

end RemoteExecutor

structure RemoteExecutor where
  runtime : RemoteRuntime.Runtime := {}
  queue : List RemoteExecutor.Job := []
  stopping : Bool := false
  worker : RemoteExecutor.Worker := .waiting
  tickets : ℕ := 0
  log : List RemoteExecutor.Notice := []

namespace RemoteExecutor

variable (texts : ValueCodec.Texts) (e : RemoteExecutor)

def note (notices : List Notice) : RemoteExecutor := { e with log := e.log ++ notices }

def submit (c : RemoteCommand) : RemoteExecutor :=
  let job : Job := ⟨e.tickets, c⟩
  let arrived := { e.note [.submitted job e.stopping e.queue.length] with tickets := e.tickets + 1 }
  if e.stopping then arrived.note [.answered job.ticket (remoteUnavailable ecanceled)]
  else if 32 ≤ e.queue.length then arrived.note [.answered job.ticket (remoteUnavailable eagain)]
  else { arrived with queue := e.queue ++ [job] }

/-- `Stop` up to the point where it waits for the worker. -/
def stop : RemoteExecutor := { e with stopping := true }

/-- The worker at the lock. -/
def take : RemoteExecutor :=
  if e.stopping then
    { e.note (.stopSeen e.queue ::
        e.queue.map fun job => .answered job.ticket (remoteUnavailable ecanceled)) with
      queue := [], worker := .ended }
  else match e.queue with
    | [] => e
    | job :: queue => { e with queue := queue, worker := .holding job }

def finish (job : Job) (f : RemoteRuntime.Framework) : RemoteExecutor :=
  let (reply, runtime) := RemoteRuntime.execute texts job.command f e.runtime
  { e.note [.finished job reply, .answered job.ticket (reply.getD (remoteUnavailable eio))] with
    runtime := runtime, worker := .waiting }

/-- One step of the worker's loop; only an execution reads the framework. -/
def work (f : RemoteRuntime.Framework) : RemoteExecutor :=
  match e.worker with
  | .waiting => take e
  | .holding job => { e.note [.started job] with worker := .executing job }
  | .executing job => finish texts e job f
  | .ended => e

inductive Event
  | submit (command : RemoteCommand)
  | stop
  | work (framework : RemoteRuntime.Framework)

def step (e : RemoteExecutor) : Event → RemoteExecutor
  | .submit c => submit e c
  | .stop => stop e
  | .work f => work texts e f

/-- The start error of the clients is the runtime's for good. -/
def start (error : ℤ) : RemoteExecutor := { runtime := { error := error } }

def run (error : ℤ) (events : List Event) : RemoteExecutor := events.foldl (step texts) (start error)

end RemoteExecutor

end KcfTools
