import ReplicaTrace.Event.Basic

/-!
# Merging the files

The events of several files are put into one stream.  The *head* of a file is the event that the
file gives next.  For every head a *ticket* waits in a queue, which keeps the tickets in the order
of time, then of the files, then of the places in the file.  The ticket at the front is served: its
file gives its head to the stream and reads on, and a ticket for the new head joins the queue.

Time stamps of milliseconds cannot tell the order of events that happened together, so the order of
the stream is one that can be relied upon again, not one of causes.

* `Merging.step` : serves the ticket at the front of the queue.
* `Merging.pending_of_step` : every step leaves less to do.
* `merge` : the stream of the files.
-/

namespace ReplicaTrace

/-- What waits for the head of a file. -/
structure Ticket where
  /-- The time of the head. -/
  time : Int
  /-- The place of the file among the files. -/
  rank : Nat
  /-- The place of the head in its file, from `0`. -/
  position : Nat
deriving DecidableEq, Repr

namespace Ticket

/-- The ticket `t` does not come after `u`. -/
def notAfter (t u : Ticket) : Bool :=
  decide (t.time < u.time ∨ t.time = u.time ∧
    (t.rank < u.rank ∨ t.rank = u.rank ∧ t.position ≤ u.position))

/-- The ticket `t` joins the queue. -/
def join (t : Ticket) : List Ticket → List Ticket
  | [] => [t]
  | u :: us => if t.notAfter u then t :: u :: us else u :: join t us

/-- The tickets for the first events of the files, in the order of the files. -/
def firsts (sources : List (List Event)) : List Ticket :=
  (sources.mapIdx fun rank s => s.head?.map fun e => ⟨e.time, rank, 0⟩).filterMap id

theorem notAfter_iff {t u : Ticket} : t.notAfter u = true ↔ t.time < u.time ∨ t.time = u.time ∧
    (t.rank < u.rank ∨ t.rank = u.rank ∧ t.position ≤ u.position) := by
  simp [notAfter]

@[simp] theorem length_join (t : Ticket) (us : List Ticket) :
    (t.join us).length = us.length + 1 := by
  induction us with
  | nil => rfl
  | cons u us ih =>
    simp only [join]
    split <;> simp [ih]

end Ticket

/-- Files that are being merged. -/
structure Merging where
  /-- The tickets that wait, first the one to be served next. -/
  queue : List Ticket
  /-- The head of every file, unless the file has come to its end. -/
  heads : List (Option Event)
  /-- What follows the head in every file. -/
  rest : List (List Event)
  /-- The stream so far. -/
  merged : Array Event
deriving DecidableEq, Repr

namespace Merging

/-- Every file has given its first event as its head. -/
def start (sources : List (List Event)) : Merging where
  queue := (Ticket.firsts sources).foldl (fun queue t => t.join queue) []
  heads := sources.map List.head?
  rest := sources.map List.tail
  merged := #[]

/-- Serves a ticket that has left the queue as it is given. -/
def serve (m : Merging) (t : Ticket) (queue : List Ticket) : Merging :=
  match m.heads[t.rank]?.join with
  | none => { m with queue := queue }
  | some head =>
    match m.rest[t.rank]?.getD [] with
    | [] =>
      { m with
        queue := queue
        heads := m.heads.set t.rank none
        merged := m.merged.push head }
    | next :: rest =>
      { queue := Ticket.join ⟨next.time, t.rank, t.position + 1⟩ queue
        heads := m.heads.set t.rank (some next)
        rest := m.rest.set t.rank rest
        merged := m.merged.push head }

/-- Serves the ticket at the front of the queue. -/
def step (m : Merging) : Option Merging :=
  match m.queue with
  | [] => none
  | t :: queue => some (m.serve t queue)

/-- The number of tickets that wait or are still to be drawn. -/
def pending (m : Merging) : Nat :=
  m.queue.length + m.rest.flatten.length

theorem length_flatten_set {rest : List (List Event)} {i : Nat} {e : Event} {es : List Event}
    (h : rest[i]?.getD [] = e :: es) :
    (rest.set i es).flatten.length + 1 = rest.flatten.length := by
  induction rest generalizing i with
  | nil => simp at h
  | cons s ss ih =>
    cases i with
    | zero =>
      simp only [List.getElem?_cons_zero, Option.getD_some] at h
      simp only [h, List.set_cons_zero, List.flatten_cons, List.length_append, List.length_cons]
      omega
    | succ i =>
      have := ih (i := i) (by simpa using h)
      simp only [List.set_cons_succ, List.flatten_cons, List.length_append]
      omega

/-- Every step leaves one ticket less to be served. -/
theorem pending_of_step {m m' : Merging} (h : m.step = some m') : m'.pending + 1 = m.pending := by
  unfold step at h
  split at h
  · cases h
  · next t queue hq =>
    cases h
    unfold serve
    split
    · simp only [pending, hq, List.length_cons]
      omega
    · split
      · simp only [pending, hq, List.length_cons]
        omega
      · next hr =>
        have := length_flatten_set hr
        simp only [pending, hq, Ticket.length_join, List.length_cons]
        omega

/-- Serves tickets until none waits. -/
def run (m : Merging) : Array Event :=
  match h : m.step with
  | none => m.merged
  | some next =>
    have := pending_of_step h
    run next
termination_by m.pending

theorem run_of_step_eq_none {m : Merging} (h : m.step = none) : m.run = m.merged := by
  rw [run]
  split <;> simp_all

theorem run_of_step_eq_some {m next : Merging} (h : m.step = some next) : m.run = next.run := by
  rw [run]
  split <;> simp_all

end Merging

/-- The stream of the events of several files, given in the order of their rank. -/
def merge (sources : List (List Event)) : List Event :=
  (Merging.start sources).run.toList

end ReplicaTrace
