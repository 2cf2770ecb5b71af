import AimailBridge.Foundation.Runs
import AimailBridge.Tls.Acme

/-!
# The certificate in use

The renew loop replaces the certificate on disk, and the server goes on presenting the one it was
started with.  So what is presented stays fresh for as long as that one does.
-/

namespace AimailBridge

open Foundation TlsServer

/-- The presented certificate was issued at most 90 days earlier. -/
def PresentsFresh (server : TlsServer) : Prop :=
  server.now ≤ server.presented + days 90

instance (server : TlsServer) : Decidable (PresentsFresh server) :=
  inferInstanceAs (Decidable (server.now ≤ server.presented + days 90))

namespace TlsStep

/-- How long the step takes. -/
def duration : TlsStep → Nat
  | .wait duration => duration
  | _ => 0

end TlsStep

/-- How long the steps take together. -/
def uptime (run : List TlsStep) : Nat :=
  (run.map TlsStep.duration).sum

/-- The server is stopped before the certificate that it found, or else acquired, at its start is 90
days old. -/
structure StoppedInTime (start : SystemTime) (first : Acquisition) (cache : CertCache)
    (run : List TlsStep) : Prop where
  /-- A cached certificate was young enough. -/
  cached : checkExistingCert start cache = true → ∀ issued,
    cache.cert.bind CertFile.certificate = some issued →
      start + uptime run ≤ issued + days 90
  /-- A new certificate is young enough from the start. -/
  acquired : checkExistingCert start cache = false →
    first.untilWritten + uptime run ≤ days 90

/-- A step takes its time and leaves the certificate that is presented. -/
theorem step_now_presented (server : TlsServer) (action : TlsStep) :
    (server.step action).now = server.now + action.duration ∧
      (server.step action).presented = server.presented := by
  cases action with
  | wait duration => exact ⟨rfl, rfl⟩
  | check =>
      rw [step]
      split
      · split <;> exact ⟨rfl, rfl⟩
      · exact ⟨rfl, rfl⟩
  | issue | writeKey | writeCert | fail =>
      rw [step]
      split <;> exact ⟨rfl, rfl⟩

/-- No run changes the certificate that is presented. -/
theorem presented_run (server : TlsServer) (run : List TlsStep) :
    (run.foldl step server).presented = server.presented := by
  induction run generalizing server with
  | nil => rfl
  | cons action run induction =>
      rw [List.foldl_cons, induction, (step_now_presented server action).2]

theorem now_run (server : TlsServer) (run : List TlsStep) :
    (run.foldl step server).now = server.now + uptime run := by
  induction run generalizing server with
  | nil => rfl
  | cons action run induction =>
      rw [List.foldl_cons, induction, (step_now_presented server action).1, Nat.add_assoc]
      rfl

theorem uptime_mono {before run : List TlsStep} (front : before <+: run) :
    uptime before ≤ uptime run := by
  obtain ⟨later, rfl⟩ := front
  simp [uptime]

/-- A run presents a fresh certificate throughout if it does so at its end. -/
theorem throughout_presentsFresh_iff (server : TlsServer) (run : List TlsStep) :
    Throughout step PresentsFresh server run ↔
      server.now + uptime run ≤ server.presented + days 90 := by
  constructor
  · intro throughout
    have last := throughout run (List.prefix_refl run)
    rwa [PresentsFresh, now_run, presented_run] at last
  · intro last before front
    rw [PresentsFresh, now_run, presented_run]
    exact Nat.le_trans (Nat.add_le_add_left (uptime_mono front) _) last

/-- What the server presents, and when it is ready. -/
theorem startHttps_eq_some {start : SystemTime} {first : Acquisition} {cache : CertCache}
    {server : TlsServer} (started : startHttps start first cache = some server) :
    (checkExistingCert start cache = true ∧ server.now = start ∧
      cache.cert.bind CertFile.certificate = some server.presented) ∨
    (checkExistingCert start cache = false ∧
      server.now = start + first.untilIssued + first.untilWritten ∧
      server.presented = start + first.untilIssued) := by
  rw [startHttps, getOrAcquireCert] at started
  cases usable : checkExistingCert start cache with
  | true =>
      rw [if_pos usable] at started
      obtain ⟨presented, built, rfl⟩ := Option.map_eq_some_iff.mp started
      refine Or.inl ⟨rfl, rfl, ?_⟩
      rw [buildTlsConfig] at built
      split at built
      · next certificate key =>
          rw [certificate, ← (Option.ite_none_right_eq_some.mp built).2]
      · simp at built
  | false =>
      rw [if_neg (Bool.not_eq_true _ ▸ usable)] at started
      obtain ⟨presented, built, rfl⟩ := Option.map_eq_some_iff.mp started
      refine Or.inr ⟨rfl, rfl, ?_⟩
      simpa [buildTlsConfig] using built.symm

/-- In every run of the server, what it presents is fresh at all times exactly when the server is
stopped before the certificate of its start is too old, whatever its renew loop does. -/
theorem presentsFresh_run_iff {start : SystemTime} {first : Acquisition} {cache : CertCache}
    {server : TlsServer} (started : startHttps start first cache = some server)
    (run : List TlsStep) :
    Throughout step PresentsFresh server run ↔ StoppedInTime start first cache run := by
  rw [throughout_presentsFresh_iff]
  rcases startHttps_eq_some started with ⟨usable, now, certificate⟩ | ⟨unusable, now, presented⟩
  · rw [now]
    constructor
    · intro last
      refine ⟨fun _ issued found => ?_, fun unusable => ?_⟩
      · obtain rfl := Option.some.inj (certificate.symm.trans found)
        exact last
      · simp [usable] at unusable
    · exact fun stopped => stopped.cached usable server.presented certificate
  · rw [now, presented, Nat.add_assoc, Nat.add_le_add_iff_left]
    constructor
    · intro last
      refine ⟨fun usable => ?_, fun _ => last⟩
      simp [unusable] at usable
    · exact fun stopped => stopped.acquired unusable

/-- A server that finds no certificate, and stays up for more than 90 days while its loop renews. -/
def longRun : List TlsStep :=
  [.wait (days 61), .check, .issue, .writeKey, .writeCert, .wait (days 30)]

/-- The renewed certificate is on disk, and the old one is presented. -/
theorem renewed_not_presented : ∃ server, startHttps 0 ⟨0, 0⟩ ⟨none, none⟩ = some server ∧
    (longRun.foldl step server).cache.cert = some ⟨some (days 61), days 61⟩ ∧
    ¬ Throughout step PresentsFresh server longRun := by
  refine ⟨⟨0, ⟨some ⟨some 0, 0⟩, some 0⟩, 0, .sleeping 0⟩, by decide, by decide, ?_⟩
  intro throughout
  have last := throughout longRun (List.prefix_refl _)
  exact absurd last (by decide)

/-- A server that has been up for a month. -/
theorem month_presentsFresh : Throughout step PresentsFresh
    ⟨0, ⟨some ⟨some 0, 0⟩, some 0⟩, 0, .sleeping 0⟩ [.wait (days 30), .check] := by
  apply (presentsFresh_run_iff (by decide : startHttps 0 ⟨0, 0⟩ ⟨none, none⟩ = some _) _).mpr
  exact ⟨fun usable => absurd usable (by decide), fun _ => by decide⟩

end AimailBridge
