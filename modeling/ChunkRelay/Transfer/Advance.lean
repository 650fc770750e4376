import ChunkRelay.Transfer.Station

/-!
# Letting a party act

A party acts until it stops, until it has come to a point where its caller wants it to pause, or until
it needs a message that is not there yet. Each receive that is answered uses up a message or ends the
party, so the messages on their way bound how long it can go on.
-/

set_option autoImplicit false

namespace ChunkRelay

inductive Standing where
  | stopped
  | paused
  | waiting
deriving DecidableEq, Repr

structure Advanced (σ : Type) where
  standing : Standing
  moved : Bool
  party : σ
  station : Station

def report (notices : List Notice) : HostM Unit :=
  notices.forM fun notice => note notice.level notice.text notice.fields

def advanceFor {σ : Type} (act : σ → Action σ) (pause : σ → Bool) :
    Nat → Bool → σ → Station → HostM (Advanced σ)
  | 0, moved, party, station => return { standing := .waiting, moved, party, station }
  | limit + 1, moved, party, station => do
    match act party with
    | .stop => return { standing := .stopped, moved, party, station }
    | .ask request resume =>
      let (answer?, station) ← station.answer request
      match answer? with
      | none => return { standing := .waiting, moved, party, station }
      | some answer =>
        let turn := resume answer
        report turn.notices
        if pause turn.next then
          return { standing := .paused, moved := true, party := turn.next, station }
        else advanceFor act pause limit true turn.next station

/-- The number of requests between two receives, generously. -/
def requestsPerMessage : Nat := 8

def advance {σ : Type} (act : σ → Action σ) (pause : σ → Bool) (party : σ) (station : Station) :
    HostM (Advanced σ) := do
  let backlog := station.backlog (← get)
  advanceFor act pause (requestsPerMessage * (backlog + 2)) false party station

/-- Ends the bounded wait of a party; nothing if it does not wait or its wait has no end. -/
def expire {σ : Type} (act : σ → Action σ) (party : σ) (station : Station) :
    HostM (Option σ) := do
  match act party, station.wait, station.transport with
  | .ask .receive resume, .atMost limit, some transport =>
    let turn := resume (.error (← transport.expire limit))
    report turn.notices
    return some turn.next
  | _, _, _ => return none

/-- Lets a party act while nobody else does, so that a wait runs out once it begins. -/
def advanceAlone {σ : Type} (act : σ → Action σ) (pause : σ → Bool) (party : σ)
    (station : Station) : HostM (Advanced σ) := do
  let advanced ← advance act pause party station
  match advanced.standing with
  | .stopped | .paused => return advanced
  | .waiting =>
    match ← expire act advanced.party advanced.station with
    | none => return advanced
    | some party =>
      if pause party then return { advanced with standing := .paused, party }
      else advance act pause party advanced.station

end ChunkRelay
