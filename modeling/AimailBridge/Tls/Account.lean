import AimailBridge.Foundation.Runs
import AimailBridge.Tls.Order

/-!
# The account file

The account is created by the first acquisition that gets that far, and written in place.  An
account file that is cut off stands in the way of all later acquisitions; all orders that are placed
are placed with the account in it.
-/

namespace AimailBridge

open Foundation Text

namespace AcmeStore

variable {Account : Type*} (client : AcmeClient Account) (challengePath : Option Text)

/-! ## The account file -/

/-- A file that an account can be restored from, or none. -/
def Readable (file : FileContent) : Prop :=
  ∀ bytes, file = some bytes → (client.decode bytes).isSome

/-- A certificate can still be acquired, if all goes well. -/
def Obtainable (store : AcmeStore Account) : Prop :=
  ∃ turn, (store.acquire client challengePath turn).2 = true

/-- The acquisition does not stop in the middle of writing a new account file. -/
def AccountWhole (store : AcmeStore Account) (turn : OrderTurn Account) : Prop :=
  store.account = none → turn.built = true → ∀ account, turn.created = some account →
    ∀ written, turn.accountPoint = .stopped written → (client.encode account).length ≤ written

/-- No account file that is written in this step is cut off. -/
def WritesAccount (store : AcmeStore Account) : AcmeStep Account → Prop
  | .wait _ => True
  | .start turn =>
      store.files.checkExisting store.now = false → AccountWhole client store turn
  | .renew turn =>
      store.files.needsRenewal store.now = true → AccountWhole client store turn

variable {client challengePath} {store : AcmeStore Account} {turn : OrderTurn Account}

/-- A successful acquisition has had an account. -/
theorem account_of_acquire (success : (store.acquire client challengePath turn).2 = true) :
    (client.accountFor turn store.account).1.isSome := by
  rw [acquire, obtainIssue] at success
  by_cases built : turn.built = true
  · rw [if_pos built] at success
    revert success
    cases client.accountFor turn store.account with
    | mk found file =>
        cases found with
        | none => exact fun failure => absurd failure Bool.false_ne_true
        | some found => exact fun _ => rfl
  · rw [if_neg built] at success
    exact absurd success Bool.false_ne_true

/-- A certificate can be acquired as long as the account file is missing or can be read. -/
theorem obtainable_iff [Inhabited Account] :
    Obtainable client challengePath store ↔ Readable client store.account := by
  constructor
  · rintro ⟨turn, success⟩ bytes found
    have account := account_of_acquire success
    rw [found, AcmeClient.accountFor] at account
    split at account
    · exact account
    · exact absurd account Bool.false_ne_true
  · intro readable
    refine ⟨smoothTurn default, ?_⟩
    obtain ⟨now, files, file, challenges, issued, orders⟩ := store
    cases file with
    | none => rfl
    | some bytes =>
        obtain ⟨account, restored⟩ := Option.isSome_iff_exists.mp (readable bytes rfl)
        have found : client.accountFor (smoothTurn default) (some bytes) =
            (some account, some bytes) := by
          rw [AcmeClient.accountFor, restored]
          rfl
        rw [acquire, obtainIssue]
        dsimp only
        rw [found]
        rfl

theorem readable_none : Readable client none :=
  fun _ missing => absurd missing.symm (Option.some_ne_none _)

theorem readable_encode (account : Account) : Readable client (some (client.encode account)) := by
  intro bytes written
  rw [← Option.some.inj written, client.decode_encode]
  rfl

/-- A new account file can be read exactly when it is not cut off. -/
theorem readable_writeFile_iff (account : Account) (point : WritePoint) :
    Readable client (writeFile (client.encode account) none point) ↔
      ∀ written, point = .stopped written → (client.encode account).length ≤ written := by
  cases point with
  | unopened => exact iff_of_true readable_none fun _ same => by cases same
  | finished => exact iff_of_true (readable_encode account) fun _ same => by cases same
  | stopped written =>
      rw [writeFile]
      constructor
      · rintro readable _ ⟨⟩
        by_contra short
        have lost := readable _ rfl
        rw [client.decode_take _ _ (not_le.mp short)] at lost
        cases lost
      · intro whole
        rw [List.take_of_length_le (whole written rfl)]
        exact readable_encode account

/-- An acquisition keeps the account file readable exactly when it does not cut it off. -/
theorem readable_acquire_iff (readable : Readable client store.account) :
    Readable client (store.acquire client challengePath turn).1.account ↔
      AccountWhole client store turn := by
  rw [(acquire_account client challengePath store turn).1]
  by_cases built : turn.built = true
  · rw [if_pos built]
    cases present : store.account with
    | some bytes =>
        rw [present] at readable
        refine iff_of_true readable fun missing => ?_
        exact absurd (present.symm.trans missing) (Option.some_ne_none bytes)
    | none =>
        rw [AcmeClient.accountFor]
        cases created : turn.created with
        | none =>
            refine iff_of_true readable_none fun _ _ account same => ?_
            exact absurd (same.symm.trans created) (Option.some_ne_none account)
        | some account =>
            dsimp only
            rw [readable_writeFile_iff]
            constructor
            · intro whole _ _ other same
              obtain rfl := Option.some.inj (created.symm.trans same)
              exact whole
            · exact fun whole => whole present built account created
  · rw [if_neg built]
    exact iff_of_true readable fun _ same => absurd same built

/-- A step keeps the account file readable exactly when it does not cut it off. -/
theorem readable_step_iff (readable : Readable client store.account)
    (action : AcmeStep Account) :
    Readable client (store.step client challengePath action).account ↔
      WritesAccount client store action := by
  cases action with
  | wait duration => exact iff_of_true readable trivial
  | start turn =>
      rw [step, getOrAcquire, WritesAccount]
      by_cases usable : store.files.checkExisting store.now = true
      · rw [if_pos usable]
        exact iff_of_true readable fun unusable => by rw [usable] at unusable; cases unusable
      · rw [if_neg usable, readable_acquire_iff readable]
        exact ⟨fun whole _ => whole, fun whole => whole (Bool.eq_false_of_not_eq_true usable)⟩
  | renew turn =>
      rw [step, WritesAccount]
      by_cases due : store.files.needsRenewal store.now = true
      · rw [if_pos due, readable_acquire_iff readable]
        exact ⟨fun whole _ => whole, fun whole => whole due⟩
      · rw [if_neg due]
        exact iff_of_true readable fun same => absurd same due

/-- A certificate can be acquired throughout a run exactly when no step of it cuts the account file
off. -/
theorem obtainable_run_iff [Inhabited Account] (client : AcmeClient Account)
    (challengePath : Option Text) (now : SystemTime) (challenges : Challenges)
    (run : List (AcmeStep Account)) :
    Throughout (step client challengePath) (Obtainable client challengePath)
        (new now challenges) run ↔
      Guarded (step client challengePath) (WritesAccount client) (new now challenges) run := by
  have start : Readable client (new now challenges : AcmeStore Account).account := readable_none
  exact @throughout_iff_guarded _ _ (step client challengePath)
    (fun store => Readable client store.account) _ _
    (fun _ readable => obtainable_iff.mpr readable)
    (fun _ action readable whole => (readable_step_iff readable action).mpr whole)
    (fun _ action readable kept => (readable_step_iff readable action).mp (obtainable_iff.mp kept))
    _ start run

/-! ## A lost account -/

/-- No acquisition gets past an account file that cannot be read. -/
theorem acquire_lost (store : AcmeStore Account) (challengePath : Option Text)
    (turn : OrderTurn Account) {bytes : List UInt8} (found : store.account = some bytes)
    (unreadable : client.decode bytes = none) :
    ∃ now, store.now ≤ now ∧
      store.acquire client challengePath turn = ({ store with now }, false) := by
  have restored : client.accountFor turn store.account = (none, store.account) := by
    rw [found, AcmeClient.accountFor, unreadable, ite_self]
  rw [acquire, obtainIssue]
  by_cases built : turn.built = true
  · rw [if_pos built, restored]
    exact ⟨_, Nat.le_add_right _ _, rfl⟩
  · rw [if_neg built]
    exact ⟨_, Nat.le_refl _, rfl⟩

/-- A step with an account file that cannot be read lets time pass. -/
theorem step_lost (store : AcmeStore Account) (challengePath : Option Text) {bytes : List UInt8}
    (found : store.account = some bytes) (unreadable : client.decode bytes = none)
    (action : AcmeStep Account) :
    ∃ now, store.now ≤ now ∧ store.step client challengePath action = { store with now } := by
  cases action with
  | wait duration => exact ⟨_, Nat.le_add_right _ _, rfl⟩
  | start turn =>
      rw [step, getOrAcquire]
      split
      · exact ⟨_, Nat.le_refl _, rfl⟩
      · obtain ⟨now, order, same⟩ := acquire_lost store challengePath turn found unreadable
        exact ⟨now, order, congrArg Prod.fst same⟩
  | renew turn =>
      rw [step]
      split
      · obtain ⟨now, order, same⟩ := acquire_lost store challengePath turn found unreadable
        exact ⟨now, order, congrArg Prod.fst same⟩
      · exact ⟨_, Nat.le_refl _, rfl⟩

theorem run_lost (store : AcmeStore Account) (challengePath : Option Text) {bytes : List UInt8}
    (found : store.account = some bytes) (unreadable : client.decode bytes = none)
    (run : List (AcmeStep Account)) :
    ∃ now, store.now ≤ now ∧ run.foldl (step client challengePath) store = { store with now } := by
  induction run generalizing store with
  | nil => exact ⟨_, Nat.le_refl _, rfl⟩
  | cons action run induction =>
      obtain ⟨now, order, same⟩ := step_lost store challengePath found unreadable action
      rw [List.foldl_cons, same]
      obtain ⟨later, further, same⟩ := induction { store with now } found
      exact ⟨later, order.trans further, same⟩

/-- Files that are too old are not used. -/
theorem checkExisting_old {now : SystemTime} {files : CertFiles}
    (old : ∀ cert, files.cert = some cert → cert.modified + days 60 < now) :
    files.checkExisting now = false := by
  obtain ⟨cert, key⟩ := files
  cases cert with
  | none => rfl
  | some cert =>
      cases key with
      | none => rfl
      | some key =>
          have late := old cert rfl
          have past : cert.modified ≤ now := (Nat.le_add_right _ _).trans late.le
          rw [CertFiles.checkExisting]
          dsimp only
          rw [elapsed, if_pos past]
          exact decide_eq_false (not_le.mpr (Nat.lt_sub_iff_add_lt'.mpr late))

/-- Once the account file has been cut off nothing is acquired any more: the certificate on disk is
the last one, and when it is 60 days old every start goes without one. -/
theorem lost_forever (client : AcmeClient Account) (challengePath : Option Text)
    (store : AcmeStore Account) (lost : ¬ Readable client store.account)
    (run : List (AcmeStep Account)) :
    let after := run.foldl (step client challengePath) store
    after.files = store.files ∧ after.issued = store.issued ∧ after.account = store.account ∧
      ((∀ cert, store.files.cert = some cert → cert.modified + days 60 < after.now) →
        ∀ turn, (after.getOrAcquire client challengePath turn).2 = false) := by
  obtain ⟨bytes, found, unreadable⟩ : ∃ bytes, store.account = some bytes ∧
      client.decode bytes = none := by
    by_contra none
    refine lost fun bytes found => Option.ne_none_iff_isSome.mp fun unreadable => none ?_
    exact ⟨bytes, found, unreadable⟩
  obtain ⟨now, _, same⟩ := run_lost store challengePath found unreadable run
  dsimp only
  rw [same]
  refine ⟨rfl, rfl, rfl, fun old turn => ?_⟩
  obtain ⟨later, _, failed⟩ := acquire_lost { store with now } challengePath turn found
    unreadable
  rw [getOrAcquire, checkExisting_old old, if_neg Bool.false_ne_true, failed]
  rfl

/-- An account file that is cut off at its start. -/
theorem lost_forever_sample :
    let start : AcmeStore Bool := new 0 ⟨none, fun _ => none, none⟩
    let cutOff := start.step digitClient none
      (.start { smoothTurn true with accountPoint := .stopped 0 })
    cutOff.account = some [] ∧
      ((cutOff.step digitClient none (.wait 5)).getOrAcquire digitClient none
        (smoothTurn false)).2 = false := by
  intro start cutOff
  have lost : ¬ Readable digitClient cutOff.account :=
    fun readable => absurd (readable [] rfl) Bool.false_ne_true
  obtain ⟨_, _, _, failing⟩ := lost_forever digitClient none cutOff lost [.wait 5]
  exact ⟨rfl, failing (fun cert found => by cases found) _⟩

/-! ## The account of all orders -/

/-- All orders were placed with the account in the file. -/
def OneAccount (client : AcmeClient Account) (store : AcmeStore Account) : Prop :=
  ∀ placed ∈ store.orders, store.account.bind client.decode = some placed

/-- The account that an order can be placed with is the one that is then in the file. -/
theorem decode_accountFor {file : FileContent} {account : Account}
    (found : (client.accountFor turn file).1 = some account) :
    (client.accountFor turn file).2.bind client.decode = some account := by
  cases file with
  | some bytes =>
      rw [AcmeClient.accountFor] at found ⊢
      split at found
      · exact found
      · cases found
  | none =>
      rw [AcmeClient.accountFor] at found ⊢
      cases created : turn.created with
      | none =>
          rw [created] at found
          cases found
      | some fresh =>
          rw [created] at found
          dsimp only at found ⊢
          split at found
          · next locked =>
              obtain rfl := Option.some.inj found
              cases point : turn.accountPoint with
              | unopened | stopped _ =>
                  rw [point] at locked
                  cases locked
              | finished => exact client.decode_encode fresh
          · cases found

theorem OneAccount.acquire (one : OneAccount client store) (turn : OrderTurn Account) :
    OneAccount client (store.acquire client challengePath turn).1 := by
  obtain ⟨account, orders⟩ := acquire_account client challengePath store turn
  rw [OneAccount, account, orders]
  intro placed member
  by_cases built : turn.built = true
  · rw [if_pos built] at member ⊢
    rcases List.mem_append.mp member with new | old
    · exact decode_accountFor (Option.mem_toList.mp new)
    · have known := one placed old
      cases present : store.account with
      | none =>
          rw [present] at known
          cases known
      | some bytes =>
          rw [present] at known
          exact known
  · rw [if_neg built] at member ⊢
    exact one placed member

theorem OneAccount.step (one : OneAccount client store) (action : AcmeStep Account) :
    OneAccount client (store.step client challengePath action) := by
  cases action with
  | wait duration => exact one
  | start turn =>
      rw [AcmeStore.step, getOrAcquire]
      split
      · exact one
      · exact one.acquire turn
  | renew turn =>
      rw [AcmeStore.step]
      split
      · exact one.acquire turn
      · exact one

/-- Whatever fails, and however often, all orders of a cache directory are placed with one
account: that in its file. -/
theorem one_account (client : AcmeClient Account) (challengePath : Option Text)
    (start : AcmeStore Account) (fresh : start.orders = []) (run : List (AcmeStep Account)) :
    OneAccount client (run.foldl (step client challengePath) start) := by
  have one : OneAccount client start := by
    rw [OneAccount, fresh]
    exact fun placed member => by cases member
  clear fresh
  induction run generalizing start with
  | nil => exact one
  | cons action run induction => exact induction _ (one.step action)

/-- Two starts, of which the second finds the account that the first has created. -/
theorem one_account_sample :
    let start : AcmeStore Bool := new 0 ⟨none, fun _ => none, none⟩
    let run : List (AcmeStep Bool) := [.start { smoothTurn true with keyPoint := .unopened },
      .start (smoothTurn false)]
    (run.foldl (step digitClient none) start).orders = [true, true] ∧
      OneAccount digitClient (run.foldl (step digitClient none) start) :=
  ⟨rfl, one_account digitClient none _ rfl _⟩

end AcmeStore

end AimailBridge
