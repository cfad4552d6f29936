import Haptics.Delivery.Depot
import Haptics.Discovery.Search
import Haptics.Rehearsal.Transport

/-!
# Delivery rehearsals

A depot over devices that follow a script, with a log of the calls made on them. The consumer does not
run by itself here: `run` lets it work until nothing is left to do or a scripted play holds it up.
-/

namespace Haptics.Rehearsal

/-- What comes of one play of a scripted device. -/
structure Cue where
  isHeld : Bool
  /-- The result; none if the device brings the consumer down. -/
  result : Option (Except DeviceError Outcome)

/-- A scripted device; after its cues every play succeeds. -/
structure Role where
  id : String
  opening : Except DeviceError Unit
  cues : List Cue
  closing : Except DeviceError Unit

/-- A device in a rehearsal; a mouse without a name is not logged. -/
inductive Actor where
  | role (r : Role)
  | mouse (id : Option String) (s : StageMouse)

inductive Entry where
  | searched (connection : Option Connection)
  | opened (id : String)
  | played (effect : Effect) (id : String)
  | closed (id : String)

def Entry.text : Entry → String
  | searched c => "find " ++ (c.map (·.displayName)).getD "any"
  | opened id => "open " ++ id
  | played e id => "play " ++ Text.showNat e.number ++ " " ++ id
  | closed id => "close " ++ id

namespace Actor

def id? : Actor → Option String
  | role r => some r.id
  | mouse id _ => id

def cue? : Actor → Option Cue
  | role r => r.cues.head?
  | mouse .. => none

end Actor

/-- The world of a rehearsal: what the next searches find, and the log. -/
structure Theatre where
  world : World
  offers : List (Option Actor)
  /-- The search of a running system, in place of the offers. -/
  search? : Option Search
  log : List Entry

namespace Theatre

/-- The theatre after another entry in the log, if the call is logged. -/
def note (t : Theatre) (entry : String → Entry) (id : Option String) : Theatre :=
  match id with
  | none => t
  | some id => { t with log := t.log ++ [entry id] }

/-- A search of the system, or for the next offer. -/
def find (c : Option Connection) (t : Theatre) : Option Actor × Theatre :=
  match t.search? with
  | some l => ((l.find (t.world.world.host.tree.files t.world.world.host.base) c).map (.mouse none), t)
  | none => (t.offers.head?.join, { t with offers := t.offers.tail, log := t.log ++ [.searched c] })

def acquire (a : Actor) (t : Theatre) : Except DeviceError Unit × Actor × Theatre :=
  let t := t.note .opened a.id?
  match a with
  | .role r => (r.opening, a, t)
  | .mouse id s =>
    match s.opened World.transport t.world with
    | (r, s, world) => (r, .mouse id s, { t with world := world })

def play (a : Actor) (e : Effect) (t : Theatre) : Except DeviceError Outcome × Actor × Theatre :=
  match a with
  | .role r =>
    ((r.cues.head?.bind (·.result)).getD (.ok .written), .role { r with cues := r.cues.tail }, t)
  | .mouse id s =>
    match s.play World.transport e t.world with
    | (r, s, world) => (r, .mouse id s, { t with world := world })

def close (a : Actor) (t : Theatre) : Except DeviceError Unit × Actor × Theatre :=
  let t := t.note .closed a.id?
  match a with
  | .role r => (r.closing, a, t)
  | .mouse id s =>
    match s.closed World.transport t.world with
    | (r, s, world) => (r, .mouse id s, { t with world := world })

def devices : Devices Theatre Actor := ⟨find, acquire, play, close⟩

end Theatre

structure Production where
  depot : Depot Actor
  theatre : Theatre
  isHeld : Bool

namespace Production

def step (p : Production) (f : Depot Actor → Theatre → Depot Actor × Theatre) : Production :=
  match f p.depot p.theatre with
  | (m, t) => { p with depot := m, theatre := t }

/-- The device that an effect is being sent to. -/
def player? (p : Production) : Option Actor :=
  match p.depot.phase with
  | .delivering k _ .first | .delivering k _ .last => k.device
  | _ => none

/-- The end of the play, or the search, that has begun. -/
def finish (p : Production) : Production :=
  match p.player?.bind Actor.cue? with
  | some ⟨_, none⟩ => { p with depot := p.depot.crash }
  | _ => p.step (Depot.proceed Theatre.devices)

/-- The next thing that the consumer does by itself; none if it has nothing to do or is held up. A play
is not held up once the consumer was told to stop. -/
def act? (p : Production) : Option Production :=
  if p.isHeld then none
  else match p.depot.phase with
  | .idle _ => some { p with depot := p.depot.look }
  | .waiting _ =>
    if p.depot.isStopping then some { p with depot := p.depot.look }
    else if p.depot.inbox.waiting.isEmpty then none
    else some { p with depot := p.depot.take }
  | .delivering _ _ .search => some p.finish
  | .delivering k e _ =>
    let p := { p with theatre := p.theatre.note (.played e) (k.device.bind Actor.id?) }
    if (k.device.bind Actor.cue?).any (·.isHeld) && !p.depot.isStopping then some { p with isHeld := true }
    else some p.finish
  | .leaving _ => some { p with depot := p.depot.leave }
  | _ => none

/-- Lets the consumer do at most `n` things. -/
def runFor (p : Production) : Nat → Production
  | 0 => p
  | n + 1 =>
    match p.act? with
    | none => p
    | some p => p.runFor n

/-- Lets the consumer work. For each effect it looks, takes it, plays it at most twice and searches at most
once in between, which bounds what there is to do. -/
def run (p : Production) : Production := p.runFor (5 * p.depot.inbox.waiting.length + 6)

def release (p : Production) : Production :=
  if p.isHeld then ({ p with isHeld := false }).finish.run else p.run

def stop (p : Production) : Production :=
  ({ p with depot := p.depot.signal }).release.step (Depot.join Theatre.devices)

def abandon (p : Production) : Production := ({ p with depot := p.depot.abandon }).run

def takeLog (p : Production) : List Entry × Production :=
  (p.theatre.log, { p with theatre := { p.theatre with log := [] } })

end Production

end Haptics.Rehearsal
