import Mathlib

/-!
# Certificates

The cached certificate, its acquisition and its renewal in the background, and the TLS configuration
that the server is started with.  A certificate is told by the time of its issue.
-/

namespace AimailBridge

/-- Readings of the system clock, in nanoseconds. -/
abbrev SystemTime := Nat

/-- A number of days, in nanoseconds. -/
def days (n : Nat) : Nat :=
  n * 86400 * 1000000000

/-- A file in the place of the certificate. -/
structure CertFile where
  /-- When the certificate in it was issued, if it holds one. -/
  certificate : Option SystemTime
  /-- When it was last modified. -/
  modified : SystemTime
  deriving DecidableEq

/-- The files of a domain in the cache directory. -/
structure CertCache where
  /-- The certificate. -/
  cert : Option CertFile
  /-- The private key, by the certificate that it belongs to. -/
  key : Option SystemTime
  deriving DecidableEq

/-- `SystemTime::elapsed`: it fails for a time in the future. -/
def elapsed (now modified : SystemTime) : Option Nat :=
  if modified ≤ now then some (now - modified) else none

/-- Check whether a previously-acquired certificate is still usable. -/
def checkExistingCert (now : SystemTime) (cache : CertCache) : Bool :=
  match cache.cert, cache.key with
  | some cert, some _ =>
      match elapsed now cert.modified with
      | some age => age ≤ days 60
      | none => false
  | _, _ => false

/-- How long an acquisition takes. -/
structure Acquisition where
  /-- Until the certificate is issued. -/
  untilIssued : Nat
  /-- From then on until its files are written. -/
  untilWritten : Nat
  deriving DecidableEq

/-- Get a certificate, reusing a cached one if still valid: when that is done, and what the cache
holds then. -/
def getOrAcquireCert (start : SystemTime) (first : Acquisition) (cache : CertCache) :
    SystemTime × CertCache :=
  if checkExistingCert start cache then (start, cache)
  else
    let issued := start + first.untilIssued
    let written := issued + first.untilWritten
    (written, { cert := some ⟨some issued, written⟩, key := some issued })

/-- `build_tls_config_from_paths`: the certificate to present, if the key belongs to it. -/
def buildTlsConfig (cache : CertCache) : Option SystemTime :=
  match cache.cert.bind CertFile.certificate, cache.key with
  | some issued, some key => if key = issued then some issued else none
  | _, _ => none

/-! ## Renewal -/

/-- The points of the renew loop. -/
inductive RenewPoint
  /-- It sleeps. -/
  | sleeping (since : SystemTime)
  /-- It has ordered a certificate. -/
  | acquiring
  /-- It is about to write the key of a certificate. -/
  | writingKey (issued : SystemTime)
  /-- It is about to write a certificate. -/
  | writingCert (issued : SystemTime)
  deriving DecidableEq

/-- How long the loop sleeps at least: 12 hours in increments of 10 seconds. -/
def renewSleep : Nat :=
  12 * 3600 / 10 * (10 * 1000000000)

/-- Whether the loop renews: the file is older than 60 days, or its age cannot be told. -/
def needsRenew (now : SystemTime) (cache : CertCache) : Bool :=
  match cache.cert.bind fun cert => elapsed now cert.modified with
  | some age => days 60 < age
  | none => true

/-- A running HTTPS server with its renew loop. -/
structure TlsServer where
  /-- The time. -/
  now : SystemTime
  /-- The cache directory. -/
  cache : CertCache
  /-- The certificate that the server presents. -/
  presented : SystemTime
  /-- The renew loop. -/
  renewal : RenewPoint
  deriving DecidableEq

/-- What happens next. -/
inductive TlsStep
  /-- Time passes. -/
  | wait (duration : Nat)
  /-- The loop has slept, and looks at the certificate. -/
  | check
  /-- The ordered certificate is issued. -/
  | issue
  /-- The key is written. -/
  | writeKey
  /-- The certificate is written. -/
  | writeCert
  /-- The acquisition fails where it stands. -/
  | fail
  deriving DecidableEq

namespace TlsServer

/-- The server after a step; a step that is not due changes nothing. -/
def step (server : TlsServer) : TlsStep → TlsServer
  | .wait duration => { server with now := server.now + duration }
  | .check =>
      match server.renewal with
      | .sleeping since =>
          if since + renewSleep ≤ server.now then
            { server with
              renewal :=
                if needsRenew server.now server.cache then .acquiring else .sleeping server.now }
          else server
      | _ => server
  | .issue =>
      match server.renewal with
      | .acquiring => { server with renewal := .writingKey server.now }
      | _ => server
  | .writeKey =>
      match server.renewal with
      | .writingKey issued => { server with
          cache := { server.cache with key := some issued }
          renewal := .writingCert issued }
      | _ => server
  | .writeCert =>
      match server.renewal with
      | .writingCert issued => { server with
          cache := { server.cache with cert := some ⟨some issued, server.now⟩ }
          renewal := .sleeping server.now }
      | _ => server
  | .fail =>
      match server.renewal with
      | .sleeping _ => server
      | _ => { server with renewal := .sleeping server.now }

/-- `acme_tls_config` and `start_https`: the server, if its certificate can be loaded. -/
def startHttps (start : SystemTime) (first : Acquisition) (cache : CertCache) :
    Option TlsServer :=
  let (now, cache) := getOrAcquireCert start first cache
  (buildTlsConfig cache).map fun presented =>
    { now, cache, presented, renewal := .sleeping now }

end TlsServer
end AimailBridge
