/-! Handles that can be revoked once. Whoever listens to a handle is called when it is
revoked, as many times as it listens, and at once if it starts to listen too late. -/

namespace LiveLint

structure Handle (L : Type) where
  alive : Bool := true
  /-- Those who listen, in the order in which they began to. -/
  listeners : List L := []
  deriving DecidableEq

namespace Handle

variable {L : Type}

/-- Begin to listen; the second part lists who is called. -/
def add (l : L) (h : Handle L) : Handle L × List L :=
  if h.alive then ({ h with listeners := h.listeners ++ [l] }, []) else (h, [l])

/-- Stop to listen; of several times, the earliest ends. -/
def remove [BEq L] (l : L) (h : Handle L) : Handle L :=
  { h with listeners := h.listeners.erase l }

/-- Revoke the handle; the second part lists who is called. -/
def revoke (h : Handle L) : Handle L × List L :=
  if h.alive then (⟨false, []⟩, h.listeners) else (h, [])

end Handle
end LiveLint
