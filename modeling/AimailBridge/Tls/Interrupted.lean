import AimailBridge.Foundation.Files
import AimailBridge.Foundation.Runs
import AimailBridge.Tls.Acme

/-!
# Interrupted acquisitions

An acquisition writes the key and then the certificate, each in place.  It can fail, or the process
can stop, before either of them, in the middle of it or after it.  What is on disk then is judged by
the age of the certificate file alone.
-/

namespace AimailBridge

open Foundation

/-- A file with its modification time. -/
structure StampedFile where
  /-- The bytes in it. -/
  bytes : List UInt8
  /-- When it was last modified. -/
  modified : SystemTime

/-- The two files of a domain in the cache directory. -/
structure CertFiles where
  /-- `{domain}.cert.pem`. -/
  cert : Option StampedFile
  /-- `{domain}.key.pem`. -/
  key : Option StampedFile

/-- What one acquisition is issued. -/
structure Issue where
  /-- The private key. -/
  key : List UInt8
  /-- The certificate chain. -/
  chain : List UInt8

/-- `std::fs::write`, as far as it gets: opening a file to write it gives it a new modification
time. -/
def stampedWrite (contents : List UInt8) (moment : SystemTime) (file : Option StampedFile) :
    WritePoint → Option StampedFile
  | .unopened => file
  | point => (writeFile contents (file.map StampedFile.bytes) point).map (⟨·, moment⟩)

/-- How an acquisition goes, as far as it gets. -/
inductive AcquireEnd
  /-- It fails before anything is written. -/
  | early (duration : Nat)
  /-- It writes the key and, when the key is written, the certificate. -/
  | writing (issue : Issue) (untilKey : Nat) (keyPoint : WritePoint) (untilCert : Nat)
      (certPoint : WritePoint)

/-- `acquire_cert_inner`: when it ends, and the files that it leaves. -/
def acquireCertInner (now : SystemTime) (files : CertFiles) : AcquireEnd → SystemTime × CertFiles
  | .early duration => (now + duration, files)
  | .writing issue untilKey keyPoint untilCert certPoint =>
      let keyMoment := now + untilKey
      let files := { files with key := stampedWrite issue.key keyMoment files.key keyPoint }
      match keyPoint with
      | .finished =>
          let certMoment := keyMoment + untilCert
          (certMoment,
            { files with cert := stampedWrite issue.chain certMoment files.cert certPoint })
      | _ => (keyMoment, files)

namespace CertFiles

/-- `check_existing_cert`, on the files themselves. -/
def checkExisting (now : SystemTime) (files : CertFiles) : Bool :=
  match files.cert, files.key with
  | some cert, some _ =>
      match elapsed now cert.modified with
      | some age => age ≤ days 60
      | none => false
  | _, _ => false

/-- Whether the renew loop orders a certificate, by the file itself. -/
def needsRenewal (now : SystemTime) (files : CertFiles) : Bool :=
  match files.cert.bind fun cert => elapsed now cert.modified with
  | some age => days 60 < age
  | none => true

/-- The cache that only tells certificates and keys by what they are read as. -/
def cache (chainIssued : List UInt8 → Option SystemTime) (keyIssued : List UInt8 → SystemTime)
    (files : CertFiles) : CertCache where
  cert := files.cert.map fun cert => ⟨chainIssued cert.bytes, cert.modified⟩
  key := files.key.map fun key => keyIssued key.bytes

end CertFiles

/-- The cache directory in the course of time, with everything that has been issued. -/
structure CertStore where
  /-- The time. -/
  now : SystemTime
  /-- The files. -/
  files : CertFiles
  /-- The keys and chains issued so far. -/
  issued : List Issue

/-- What happens next to the cache directory. -/
inductive StoreStep
  /-- Time passes. -/
  | wait (duration : Nat)
  /-- `get_or_acquire_cert` is called, and acquires when it must. -/
  | start (acquisition : AcquireEnd)
  /-- The renew loop looks at the certificate, and acquires when it must. -/
  | renew (acquisition : AcquireEnd)

namespace CertStore

/-- An empty cache directory. -/
def new (now : SystemTime) : CertStore where
  now := now
  files := ⟨none, none⟩
  issued := []

/-- The store after an acquisition. -/
def acquire (store : CertStore) (acquisition : AcquireEnd) : CertStore where
  now := (acquireCertInner store.now store.files acquisition).1
  files := (acquireCertInner store.now store.files acquisition).2
  issued :=
    match acquisition with
    | .early _ => store.issued
    | .writing issue _ _ _ _ => issue :: store.issued

/-- The store after a step. -/
def step (store : CertStore) : StoreStep → CertStore
  | .wait duration => { store with now := store.now + duration }
  | .start acquisition =>
      if store.files.checkExisting store.now then store else store.acquire acquisition
  | .renew acquisition =>
      if store.files.needsRenewal store.now then store.acquire acquisition else store

/-- The files hold a complete key and a complete chain of one issue. -/
def Complete (store : CertStore) : Prop :=
  ∃ issue ∈ store.issued, store.files.cert.map StampedFile.bytes = some issue.chain ∧
    store.files.key.map StampedFile.bytes = some issue.key

/-- Whenever the files are looked at next, at a start or by the renew loop, they are a complete
pair or a new one is acquired. -/
def NotPoisoned (store : CertStore) : Prop :=
  ∀ later, store.now ≤ later →
    (store.files.checkExisting later = true → store.Complete) ∧
      (store.files.needsRenewal later = false → store.Complete)

/-- The acquisition does not stop in the middle of the certificate, after its key has been written:
what it has put out is nothing at all or the chain of an issue with that key. -/
def CertWhole (store : CertStore) : AcquireEnd → Prop
  | .writing issue _ .finished _ (.stopped written) =>
      ∃ known ∈ issue :: store.issued, known.key = issue.key ∧
        known.chain = issue.chain.take written
  | _ => True

/-- No certificate that is written in this step is cut off. -/
def WritesWhole (store : CertStore) : StoreStep → Prop
  | .wait _ => True
  | .start acquisition =>
      store.files.checkExisting store.now = false → store.CertWhole acquisition
  | .renew acquisition =>
      store.files.needsRenewal store.now = true → store.CertWhole acquisition

end CertStore

/-! ## The two checks -/

namespace CertFiles

variable {now later : SystemTime} {files : CertFiles}

theorem checkExisting_cache (chainIssued : List UInt8 → Option SystemTime)
    (keyIssued : List UInt8 → SystemTime) :
    checkExistingCert now (files.cache chainIssued keyIssued) = files.checkExisting now := by
  obtain ⟨cert, key⟩ := files
  cases cert <;> cases key <;> rfl

theorem needsRenewal_cache (chainIssued : List UInt8 → Option SystemTime)
    (keyIssued : List UInt8 → SystemTime) :
    needsRenew now (files.cache chainIssued keyIssued) = files.needsRenewal now := by
  obtain ⟨cert, key⟩ := files
  cases cert <;> rfl

/-- What a start reuses, the renew loop leaves alone. -/
theorem needsRenewal_of_checkExisting (reusable : files.checkExisting now = true) :
    files.needsRenewal now = false := by
  obtain ⟨cert, key⟩ := files
  cases cert with
  | none => exact absurd reusable Bool.false_ne_true
  | some cert =>
      cases key with
      | none => exact absurd reusable Bool.false_ne_true
      | some key =>
          simp only [checkExisting, needsRenewal, Option.bind_some] at reusable ⊢
          cases aged : elapsed now cert.modified with
          | none => simp [aged] at reusable
          | some age => simpa [aged] using reusable

/-- A start that finds the key acquires only when the renew loop would. -/
theorem needsRenewal_of_not_checkExisting (keyed : files.cert.isSome → files.key.isSome)
    (unusable : files.checkExisting now = false) : files.needsRenewal now = true := by
  obtain ⟨cert, key⟩ := files
  cases cert with
  | none => rfl
  | some cert =>
      obtain ⟨key, rfl⟩ := Option.isSome_iff_exists.mp (keyed rfl)
      simp only [checkExisting, needsRenewal, Option.bind_some] at unusable ⊢
      cases aged : elapsed now cert.modified with
      | none => rfl
      | some age => simpa [aged] using unusable

/-- A certificate that is too old stays too old. -/
theorem needsRenewal_later (stamped : ∀ cert, files.cert = some cert → cert.modified ≤ now)
    (due : files.needsRenewal now = true) (order : now ≤ later) :
    files.needsRenewal later = true := by
  cases found : files.cert with
  | none => simp [needsRenewal, found]
  | some cert =>
      have past := stamped cert found
      simp only [needsRenewal, found, Option.bind_some, elapsed, past, past.trans order, if_true,
        decide_eq_true_eq] at due ⊢
      exact due.trans_le (Nat.sub_le_sub_right order cert.modified)

/-- A certificate that has just been written is trusted. -/
theorem needsRenewal_written {cert : StampedFile} (written : files.cert = some cert)
    (moment : cert.modified = now) : files.needsRenewal now = false := by
  simp [needsRenewal, written, elapsed, moment]

end CertFiles

namespace CertStore

variable {store after : CertStore} {acquisition : AcquireEnd}

/-! ## What the steps keep -/

/-- The store between two steps: no file is from the future, no certificate is without a key, and
what will be trusted is complete. -/
structure Sound (store : CertStore) : Prop where
  /-- The certificate was written in the past. -/
  stamped : ∀ cert, store.files.cert = some cert → cert.modified ≤ store.now
  /-- The key was written before it. -/
  keyed : store.files.cert.isSome → store.files.key.isSome
  /-- A certificate that is not renewed is part of a complete pair. -/
  trusted : ∀ later, store.now ≤ later → store.files.needsRenewal later = false → store.Complete

theorem sound_new (now : SystemTime) : (new now).Sound where
  stamped _ missing := absurd missing.symm (Option.some_ne_none _)
  keyed missing := absurd missing Bool.false_ne_true
  trusted _ _ kept := absurd kept.symm Bool.false_ne_true

theorem Sound.notPoisoned (sound : store.Sound) : store.NotPoisoned := by
  intro later order
  refine ⟨fun reusable => ?_, sound.trusted later order⟩
  exact sound.trusted later order (CertFiles.needsRenewal_of_checkExisting reusable)

/-- An acquisition that leaves the old certificate in its place leaves it untrusted. -/
theorem Sound.kept (sound : store.Sound) (due : store.files.needsRenewal store.now = true)
    (cert : after.files.cert = store.files.cert)
    (key : store.files.key.isSome → after.files.key.isSome) (order : store.now ≤ after.now) :
    after.Sound where
  stamped found same := (sound.stamped found (cert ▸ same)).trans order
  keyed present := key (sound.keyed (cert ▸ present))
  trusted later follows kept := by
    have untrusted := CertFiles.needsRenewal_later sound.stamped due (order.trans follows)
    have same : after.files.needsRenewal later = store.files.needsRenewal later := by
      rw [CertFiles.needsRenewal, CertFiles.needsRenewal, cert]
    rw [same, untrusted] at kept
    exact absurd kept.symm Bool.false_ne_true

/-- A certificate that has been put out completely belongs to the key before it. -/
theorem Sound.written {bytes : List UInt8} (cert : after.files.cert = some ⟨bytes, after.now⟩)
    (key : after.files.key.isSome) (complete : after.Complete) : after.Sound where
  stamped found same := by
    rw [cert] at same
    rw [← Option.some.inj same]
  keyed _ := key
  trusted _ _ _ := complete

/-- An acquisition that does not cut a certificate off leaves a sound store. -/
theorem Sound.acquire (sound : store.Sound) (due : store.files.needsRenewal store.now = true)
    (whole : store.CertWhole acquisition) : (store.acquire acquisition).Sound := by
  cases acquisition with
  | early duration => exact sound.kept due rfl id (Nat.le_add_right _ _)
  | writing issue untilKey keyPoint untilCert certPoint =>
      cases keyPoint with
      | unopened => exact sound.kept due rfl id (Nat.le_add_right _ _)
      | stopped written => exact sound.kept due rfl (fun _ => rfl) (Nat.le_add_right _ _)
      | finished =>
          have order : store.now ≤ store.now + untilKey + untilCert :=
            (Nat.le_add_right _ _).trans (Nat.le_add_right _ _)
          cases certPoint with
          | unopened => exact sound.kept due rfl (fun _ => rfl) order
          | stopped written =>
              obtain ⟨known, member, key, chain⟩ := whole
              exact Sound.written rfl rfl
                ⟨known, member, congrArg some chain.symm, congrArg some key.symm⟩
          | finished => exact Sound.written rfl rfl ⟨issue, List.mem_cons_self, rfl, rfl⟩

/-- An acquisition that cuts a certificate off poisons the cache at once. -/
theorem certWhole_of_notPoisoned (clean : (store.acquire acquisition).NotPoisoned) :
    store.CertWhole acquisition := by
  cases acquisition with
  | early duration => trivial
  | writing issue untilKey keyPoint untilCert certPoint =>
      cases keyPoint with
      | unopened | stopped _ => trivial
      | finished =>
          cases certPoint with
          | unopened | finished => trivial
          | stopped written =>
              let stopped := store.acquire
                (.writing issue untilKey .finished untilCert (.stopped written))
              have kept : stopped.files.needsRenewal stopped.now = false :=
                CertFiles.needsRenewal_written rfl rfl
              obtain ⟨known, member, chain, key⟩ := (clean _ (Nat.le_refl _)).2 kept
              exact ⟨known, member, (Option.some.inj key).symm, (Option.some.inj chain).symm⟩

theorem Sound.step (sound : store.Sound) {action : StoreStep} (whole : store.WritesWhole action) :
    (store.step action).Sound := by
  cases action with
  | wait duration =>
      have order : store.now ≤ store.now + duration := Nat.le_add_right _ _
      exact ⟨fun cert found => (sound.stamped cert found).trans order, sound.keyed,
        fun later follows => sound.trusted later (order.trans follows)⟩
  | start acquisition =>
      rw [CertStore.step]
      split
      · exact sound
      · next unusable =>
          have due := Bool.eq_false_of_not_eq_true unusable
          exact sound.acquire (CertFiles.needsRenewal_of_not_checkExisting sound.keyed due)
            (whole due)
  | renew acquisition =>
      rw [CertStore.step]
      split
      · next due => exact sound.acquire due (whole due)
      · exact sound

theorem writesWhole_of_notPoisoned {action : StoreStep}
    (clean : (store.step action).NotPoisoned) : store.WritesWhole action := by
  cases action with
  | wait duration => trivial
  | start acquisition =>
      intro unusable
      rw [CertStore.step, unusable, if_neg Bool.false_ne_true] at clean
      exact certWhole_of_notPoisoned clean
  | renew acquisition =>
      intro due
      rw [CertStore.step, due, if_pos rfl] at clean
      exact certWhole_of_notPoisoned clean

/-- Throughout a run the cache is never poisoned exactly when no step of it cuts a certificate off
after its key has been written. -/
theorem notPoisoned_run_iff (now : SystemTime) (run : List StoreStep) :
    Throughout step NotPoisoned (new now) run ↔ Guarded step WritesWhole (new now) run :=
  throughout_iff_guarded (fun _ sound => sound.notPoisoned)
    (fun _ _ sound whole => sound.step whole)
    (fun _ _ _ clean => writesWhole_of_notPoisoned clean) (sound_new now) run

/-- A certificate of two bytes that is cut off after one is reused at the next start. -/
theorem cut_off_reused :
    let issue : Issue := ⟨[1], [2, 3]⟩
    let run := [StoreStep.start (.writing issue 0 .finished 0 (.stopped 1))]
    (run.foldl step (new 0)).files.checkExisting 0 = true ∧
      ¬ Throughout step NotPoisoned (new 0) run := by
  intro issue run
  have reused : (run.foldl step (new 0)).files.checkExisting 0 = true := rfl
  refine ⟨reused, fun clean => ?_⟩
  obtain ⟨known, member, chain, _⟩ := (clean run (List.prefix_refl run) 0 (Nat.le_refl 0)).1 reused
  obtain rfl := List.mem_singleton.mp member
  exact absurd (Option.some.inj chain) (by decide)

end CertStore
end AimailBridge
