/-
# Lifetime counters

Seven counters that only ever go up, and start over at zero when they run
out of their 64 bits.
-/
import DirectorySessions.Json.Printer

namespace DirectorySessions

/-- What a registry has done since it was built. -/
structure Stats where
  sessionsOpened : UInt64
  sessionsClosed : UInt64
  registered : UInt64
  completed : UInt64
  abandoned : UInt64
  purged : UInt64
  denied : UInt64
deriving DecidableEq, Inhabited

namespace Stats

def zero : Stats := ⟨0, 0, 0, 0, 0, 0, 0⟩

def countOpened (s : Stats) : Stats := { s with sessionsOpened := s.sessionsOpened + 1 }

def countClosed (s : Stats) : Stats := { s with sessionsClosed := s.sessionsClosed + 1 }

def countRegistered (s : Stats) : Stats := { s with registered := s.registered + 1 }

def countCompleted (s : Stats) : Stats := { s with completed := s.completed + 1 }

def countAbandoned (s : Stats) : Stats := { s with abandoned := s.abandoned + 1 }

def countPurged (s : Stats) (n : Nat) : Stats := { s with purged := s.purged + UInt64.ofNat n }

def countDenied (s : Stats) : Stats := { s with denied := s.denied + 1 }

def toList (s : Stats) : List Nat :=
  [s.sessionsOpened, s.sessionsClosed, s.registered, s.completed, s.abandoned, s.purged,
    s.denied].map UInt64.toNat

def toJson (s : Stats) : Json.Value :=
  .object [("sessions_opened", .ofNat s.sessionsOpened.toNat),
    ("sessions_closed", .ofNat s.sessionsClosed.toNat),
    ("registered", .ofNat s.registered.toNat),
    ("completed", .ofNat s.completed.toNat),
    ("abandoned", .ofNat s.abandoned.toNat),
    ("purged", .ofNat s.purged.toNat),
    ("denied", .ofNat s.denied.toNat)]

end Stats

end DirectorySessions
