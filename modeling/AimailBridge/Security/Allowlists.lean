import AimailBridge.Admin.Api
import AimailBridge.Push.Server

/-!
# Allowlists that fail open

Entries that do not parse are skipped, and a list without entries lets everybody pass.  So an
allowlist admits exactly the addresses it lists when at least one of its entries is valid.
-/

namespace AimailBridge

open Foundation Text Admin

/-- The push allowlist that loading a configuration arrives at: the variable
`AIMAIL_BRIDGE_ALLOWED_IPS` overrides the file. -/
def loadAllowedIps (file : List Text) (variable_value : Option Text) : List Text :=
  match variable_value with
  | some v => (v.splitOn ',').map trim
  | none => file

/-- A check lets the requests of an address pass exactly when the list contains it. -/
def AdmitsListed {σ ο : Type} (check : Option (Check σ ο)) (raw : List Text) (ip : IpAddr) : Prop :=
  ∀ request state, request.peer = some ip → (Admits check request state ↔ Lists raw ip)

/-- An address and nothing else, as a request. -/
def requestFrom (ip : IpAddr) : Incoming where
  method := .get
  path := []
  uriHost := none
  headers := []
  body := []
  interrupted := false
  peer := some ip
  bodyLimit := none
  arrival := 0

theorem admitsListed_iff {σ ο : Type} {check : Option (Check σ ο)} {raw : List Text} {ip : IpAddr}
    (state : σ)
    (admits : ∀ request state, request.peer = some ip →
      (Admits check request state ↔ parseIpList raw = [] ∨ Lists raw ip)) :
    AdmitsListed check raw ip ↔ ∃ s ∈ raw, (parseCidr s).isSome := by
  have some_valid : (∃ s ∈ raw, (parseCidr s).isSome) ↔ parseIpList raw ≠ [] := by
    rw [Ne, parseIpList_eq_nil, not_forall]
    simp [Option.ne_none_iff_isSome]
  rw [some_valid]
  constructor
  · intro listed invalid
    have passes := (admits (requestFrom ip) state rfl).mpr (Or.inl invalid)
    exact not_lists invalid ip ((listed (requestFrom ip) state rfl).mp passes)
  · intro valid request state peer
    rw [admits request state peer]
    exact or_iff_right valid

/-- The push server and the admin API admit exactly the addresses that their allowlists contain,
when and only when some entry of the list is valid. -/
theorem allowlists_iff (file : List Text) (variable_value : Option Text)
    (adminAllowedIps : List Text) (ip : IpAddr) :
    (AdmitsListed (allowlistCheck PushReply.status (loadAllowedIps file variable_value))
        (loadAllowedIps file variable_value) ip ↔
      ∃ s ∈ loadAllowedIps file variable_value, (parseCidr s).isSome) ∧
    (AdmitsListed (adminCheck adminAllowedIps) adminAllowedIps ip ↔
      ∃ s ∈ adminAllowedIps, (parseCidr s).isSome) := by
  constructor
  · apply admitsListed_iff ∅
    exact fun request windows peer => admits_allowlistCheck peer _
  · apply admitsListed_iff (ProfileRouter.new none)
    exact fun request router peer => admits_adminCheck peer _

/-- A prefix that is too long, an empty variable and a stray blank each open a list to everybody. -/
theorem mistyped_admits :
    ¬ AdmitsListed (allowlistCheck PushReply.status (loadAllowedIps ["10.0.0.0/33".toList] none))
        (loadAllowedIps ["10.0.0.0/33".toList] none) (.v4 0xCB007109) ∧
    ¬ AdmitsListed (allowlistCheck PushReply.status (loadAllowedIps [] (some [])))
        (loadAllowedIps [] (some [])) (.v4 0xCB007109) ∧
    ¬ AdmitsListed (adminCheck [" 127.0.0.1".toList]) [" 127.0.0.1".toList] (.v4 0xCB007109) := by
  refine ⟨fun listed => ?_, fun listed => ?_, fun listed => ?_⟩
  · have lists := (listed (requestFrom _) ∅ rfl).mp ((admits_allowlistCheck rfl _).mpr (by decide))
    exact absurd lists (by decide)
  · have lists := (listed (requestFrom _) ∅ rfl).mp ((admits_allowlistCheck rfl _).mpr (by decide))
    exact absurd lists (by decide)
  · have lists := (listed (requestFrom _) (ProfileRouter.new none) rfl).mp
      ((admits_adminCheck rfl _).mpr (by decide))
    exact absurd lists (by decide)

end AimailBridge
