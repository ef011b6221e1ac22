import BrowserFlow.Rehearsal.Tab
import BrowserFlow.Replay.Wait
import BrowserFlow.World

/-!
The world and the page of a rehearsal. The clock stands still but for sleeps; here are the steps of somebody who
is alone with the page.
-/

namespace BrowserFlow.Rehearsal

structure Scene where
  world : World
  origin : Instant
  page : Page := {}
  deriving Inhabited

namespace Scene

def micros (seconds : Float) : Int :=
  ((Binary.ofFloat (seconds * 1000000.0 + 0.5)).truncate?).getD 0

def ofFiles (files : Files) (now : Instant) (page : Page := {}) : Scene :=
  { world := { files, now }, origin := now, page }

def setClock (s : Scene) (clock : Float) : Scene :=
  { s with world := { s.world with clock, now := ⟨s.origin.micros + micros clock⟩ } }

def sleep (s : Scene) (seconds : Float) : Scene :=
  if 0.0 < seconds then s.setClock (s.world.clock + seconds) else s

def ask (s : Scene) (request : PageRequest) : Reply × Scene :=
  match s.page.forward? request with
  | none => (.ok .nothing, s)
  | some request =>
    let s := { s with page := s.page.note request }
    let s := s.sleep ((s.page.tab.delay? request).getD 0.0)
    let (reply, page) := s.page.reply request false
    (reply, { s with page })

def onFiles (s : Scene) (action : FileM α) : Except Fault α × Scene :=
  let (result, world) := s.world.onFiles action
  (result, { s with world })

/-- Waits until a wait is over; so many steps at most. -/
def wait (strategy : WaitStrategy) : Nat → Scene → Except Fault (WaitStep Float) → Except Fault Unit × Scene
  | 0, s, _ => (.ok (), s)
  | fuel + 1, s, step =>
    match step with
    | .error fault => (.error fault, s)
    | .ok none => (.ok (), s)
    | .ok (some (waiting, wanted)) =>
      let (reply, s) := match wanted with
        | .run script => s.ask (.run script)
        | .call request => s.ask request
        | .sleep seconds => (.ok .nothing, s.sleep seconds)
      wait strategy fuel s (strategy.next s.world.clock waiting reply)

end Scene

end BrowserFlow.Rehearsal
