import SimpleNtpd.Core.Separation
import SimpleNtpd.Core.WellFormedReplies

/-!
# Clients do not interfere

What the server decides on the datagrams of one address does not depend on what
other addresses send: take all datagrams of one address out of a run, and every
other's datagrams come to the same verdicts (`clients_do_not_interfere`). The
clients are independent components, so this is the library's `purge`, once
every run is known to succeed: a step fails only when the access lists cannot be
read.
-/

namespace SimpleNtpd

open Cpp

/-- Every entry of the access lists can be read. Plain addresses and addresses
with a prefix length can (`cidrReadable_inetNtop`, `cidrReadable_prefix`). -/
def AclReadable (c : NtpConfig) : Prop :=
  ∀ entry ∈ c.deniedClients ++ c.allowedClients, CidrReadable entry

variable {c : NtpConfig}

/-- With readable entries the access check returns. -/
theorem AclReadable.isClientAllowed (h : AclReadable c) (clientIp : Str) :
    ∃ verdict, SimpleNtpd.isClientAllowed c clientIp = .ok verdict := by
  by_cases hoff : AclOff c
  · exact ⟨true, isClientAllowed_of_off hoff clientIp⟩
  · refine ⟨_, isClientAllowed_of_readable hoff ?_⟩
    intro pre entry post heq hbad
    refine absurd (h entry ?_) hbad
    rw [heq]
    exact List.mem_append_right _ List.mem_cons_self

/-- With readable entries every step on a datagram succeeds. -/
theorem AclReadable.advance (h : AclReadable c) (evp : Evp) (b : Books) (id : TaskId) (t : Task)
    (env : PacketEnv) : ∃ l, b.advance evp c id t env = .ok l := by
  obtain ⟨verdict, hverdict⟩ := h.isClientAllowed (inetNtop id.client.ip)
  unfold Books.advance
  cases t.stage with
  | received =>
    simp only [Books.access, hverdict]
    cases verdict <;> exact ⟨_, rfl⟩
  | screened =>
    simp only [Books.connect, Books.getOrCreateConnection, hverdict]
    cases b.connection id.client.port <;> exact ⟨_, rfl⟩
  | _ => exact ⟨_, rfl⟩

/-- With readable entries every step of the workers succeeds. -/
theorem AclReadable.step (h : AclReadable c) (evp : Evp) {w : Workers}
    (hw : NtpServer.Uniform c w.server) (e : WorkerEvent) : ∃ w', w.step evp e = .ok w' := by
  cases e with
  | receive id data =>
    simp only [Workers.step]
    split <;> exact ⟨_, rfl⟩
  | advance id env =>
    simp only [Workers.step]
    cases w.tasks id with
    | none => exact ⟨w, rfl⟩
    | some t =>
      obtain ⟨l, hl⟩ := h.advance evp (w.server.books id.client.ip) id t env
      have hbooks := advance_books evp hw id t env
      cases hadvance : t.advance evp w.server id env with
      | ok a => exact ⟨w.record id a, by simp only [hadvance]⟩
      | error exn =>
        rw [hadvance, hl] at hbooks
        cases hbooks
  | sync world now => exact ⟨_, rfl⟩
  | cleanup => exact ⟨_, rfl⟩

/-- Every run succeeds. -/
theorem AclReadable.run (h : AclReadable c) (evp : Evp) (logger : LoggerSettings)
    (events : List WorkerEvent) : ∃ w, (Workers.start c logger).run evp events = .ok w :=
  Components.System.run_total (M := workerSystem evp c) (workers_separated evp c).keep
    (fun e hw => h.step evp hw e) events (NtpServer.Uniform.start c logger)

/-- A datagram that the access lists drop changes one counter. -/
theorem processPacket_aclDenied {evp : Evp} {s : NtpServer} {data : Bytes} {client : SockAddr}
    {env : PacketEnv} {p : Processed} (h : s.processPacket evp data client env = .ok p)
    (hdenied : p.verdict = .aclDenied) : p.server = s.countError := by
  unfold NtpServer.processPacket NtpServer.processPacketWith at h
  dsimp only at h
  split at h
  · cases h
  · cases h
    rfl
  · -- the other verdicts
    exfalso
    split at h
    · cases h
      cases hdenied
    · split at h
      · cases h
        cases hdenied
      · split at h
        · cases h
        · cases h
          rw [(NtpServer.finishPacket_verdict _ _ _ _).1] at hdenied
          split at hdenied <;> cases hdenied

/-- **Clients do not interfere.** For a configuration whose access lists can be
read: in every run of the workers, and in the run without the datagrams of one
address, every datagram of another address stands at the same stage, so every
verdict is the same. And a datagram dropped by the access lists changes nothing of
the server but the count of errors. -/
theorem clients_do_not_interfere (evp : Evp) (c : NtpConfig) (logger : LoggerSettings)
    (hacl : AclReadable c) :
    (∀ (events : List WorkerEvent) (other : UInt32),
      ∃ w w', (Workers.start c logger).run evp events = .ok w ∧
        (Workers.start c logger).run evp (events.filter fun e => e.client ≠ some other) = .ok w' ∧
        ∀ id : TaskId, id.client.ip ≠ other →
          (w.tasks id).map Task.stage = (w'.tasks id).map Task.stage) ∧
    (∀ (s : NtpServer) (data : Bytes) (client : SockAddr) (env : PacketEnv) (p : Processed),
      s.processPacket evp data client env = .ok p → p.verdict = .aclDenied →
        p.server = { s with stats := { s.stats with totalErrors := s.stats.totalErrors + 1 } }) := by
  refine ⟨?_, fun s data client env p h hdenied => processPacket_aclDenied h hdenied⟩
  intro events other
  obtain ⟨w, hrun⟩ := hacl.run evp logger events
  obtain ⟨w', hpurged⟩ := hacl.run evp logger
    (events.filter fun e => e.client ≠ some other)
  refine ⟨w, w', hrun, hpurged, ?_⟩
  intro id hid
  have hclient : w.client id.client.ip = w'.client id.client.ip :=
    Components.System.purge (workers_separated evp c) (NtpServer.Uniform.start c logger) hrun
      hpurged hid
  have htask : (w.client id.client.ip).tasks id = (w'.client id.client.ip).tasks id := by
    rw [hclient]
  have hown : ∀ w : Workers, (w.client id.client.ip).tasks id = w.tasks id := fun _ => if_pos rfl
  rw [hown, hown] at htask
  rw [htask]

/-- The defaults with an access list: a range and a single address. -/
def listedClients : NtpConfig :=
  { NtpConfig.defaults with
    enableAcl := true
    allowedClients := [inetNtop 0xC0000200 ++ '/'.toUInt8 :: toDecimal 24]
    deniedClients := [inetNtop 0xC0000209] }

/-- A client at 192.0.2.9, which is denied. -/
def deniedClient : SockAddr := ⟨0xC0000209, 40000⟩

/-- Requests of it and of a listed client, step by step in turn. -/
def twoClients : List WorkerEvent :=
  [.receive ⟨exampleClient, 0⟩ exampleRequest, .receive ⟨deniedClient, 0⟩ exampleRequest]
    ++ (List.replicate 8 [WorkerEvent.advance ⟨deniedClient, 0⟩ exampleEnv,
      .advance ⟨exampleClient, 0⟩ exampleEnv]).flatten

/-- The listed client is served as if it were alone, and the other one costs an error. -/
theorem clients_do_not_interfere_denied :
    (∃ w w', (Workers.start listedClients (NtpServer.loggerSettings listedClients)).run
          (fun _ _ => none) twoClients = .ok w ∧
        (Workers.start listedClients (NtpServer.loggerSettings listedClients)).run
          (fun _ _ => none) (twoClients.filter fun e => e.client ≠ some deniedClient.ip) = .ok w' ∧
        ∀ id : TaskId, id.client.ip ≠ deniedClient.ip →
          (w.tasks id).map Task.stage = (w'.tasks id).map Task.stage) ∧
      ∃ p, (NtpServer.start listedClients (NtpServer.loggerSettings listedClients)).processPacket
          (fun _ _ => none) exampleRequest deniedClient exampleEnv = .ok p ∧
        p.verdict = .aclDenied ∧
        p.server = { NtpServer.start listedClients (NtpServer.loggerSettings listedClients) with
          stats := { totalErrors := 1 } } := by
  have hacl : AclReadable listedClients := by
    intro entry hentry
    rcases List.mem_append.mp hentry with hdenied | hallowed
    · rw [List.mem_singleton.mp hdenied]
      exact cidrReadable_inetNtop 0xC0000209
    · rw [List.mem_singleton.mp hallowed]
      exact cidrReadable_prefix 0xC0000200 (by decide)
  obtain ⟨hothers, hdenied⟩ := clients_do_not_interfere (fun _ _ => none) listedClients
    (NtpServer.loggerSettings listedClients) hacl
  refine ⟨hothers twoClients deniedClient.ip, ?_⟩
  have hverdict : (((NtpServer.start listedClients
      (NtpServer.loggerSettings listedClients)).processPacket (fun _ _ => none) exampleRequest
        deniedClient exampleEnv).map (·.verdict)).toOption = some .aclDenied := by
    decide +kernel
  obtain ⟨p, hp, hacl'⟩ := Runs.exists_of_toOption_map hverdict
  exact ⟨p, hp, hacl', hdenied _ _ _ _ p hp hacl'⟩

end SimpleNtpd
