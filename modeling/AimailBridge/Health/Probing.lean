import AimailBridge.Health.Endpoint
import AimailBridge.Health.Round

/-!
# Which targets are probed

A round takes the key of a target apart at its first colon.  The key of a host with a colon of its
own, which every IPv6 address has, is not taken apart into what it was made of, and its target is
passed over.
-/

namespace AimailBridge

open Foundation Text ProfileRoute ProfileRouter

/-- The endpoints that a round probes, each beside its target. -/
def probes (round : HealthRound) (router : ProfileRouter) : List (Text × Text × UInt16) :=
  (roundTargets round (groupTargets round.routeOrder router)).filterMap fun target =>
    (probedEndpoint target).map (target, ·)

/-- The round sees to the target of a route. -/
structure Probed (round : HealthRound) (router : ProfileRouter) (failures : HashMap Text UInt32)
    (route : ProfileRoute) : Prop where
  /-- The key is taken apart into the host and port that it was made of. -/
  decoded : probedEndpoint (routeTargetKey route) = some (targetEndpoint route)
  /-- They are probed once. -/
  once : (probes round router).count (routeTargetKey route, targetEndpoint route) = 1
  /-- If they cannot be reached, that is counted. -/
  counted : round.reachable (targetEndpoint route).1 (targetEndpoint route).2 = false →
    ((roundTargets round (groupTargets round.routeOrder router)).foldl (probeTarget round)
      (failures, [])).1.lookup (routeTargetKey route) =
        some (failureCount failures (routeTargetKey route) + 1)

/-- The round sees to the target of every route. -/
def EveryTargetProbed (round : HealthRound) (router : ProfileRouter)
    (failures : HashMap Text UInt32) : Prop :=
  ∀ email route, router.routes.lookup email = some route → Probed round router failures route

/-- The host and the port of a target, as its URL has them. -/
def targetAuthority (route : ProfileRoute) : Text :=
  (breakAt '/' (urlRest route.targetUrl)).1

/-- An authority has no colon but the one in front of its port; the host before that, if it opens a
bracket, closes it. -/
def SingleColon (authority : Text) : Prop :=
  ':' ∉ authority ∨ ∃ host digits, authority = host ++ ':' :: digits ∧ ':' ∉ host ∧
    (parseU16 digits).isSome ∧ (['['] <+: host → ∃ address, host = '[' :: address ++ [']'])

/-! ## Keys and their parts -/

theorem probedEndpoint_of_not_mem {host : Text} (absent : ':' ∉ host) (port : UInt16) :
    probedEndpoint (hostColonPort host port) = some (host, port) := by
  rw [probedEndpoint, hostColonPort, splitOnce_singleton absent]
  simp

/-- What stands behind the first of several colons is no port. -/
theorem probedEndpoint_of_mem {host : Text} (member : ':' ∈ host) (port : UInt16) :
    probedEndpoint (hostColonPort host port) = none := by
  obtain ⟨front, rest, rfl, absent⟩ := List.eq_append_cons_of_mem member
  have behind : ':' ∈ rest ++ ':' :: decimal port.toNat := by simp
  have form : hostColonPort (front ++ ':' :: rest) port =
      front ++ ':' :: (rest ++ ':' :: decimal port.toNat) := by simp [hostColonPort]
  rw [probedEndpoint, form, splitOnce_singleton absent]
  simp [parseU16_eq_none_of_mem behind (by decide) (by decide)]

theorem decoded_iff (route : ProfileRoute) :
    probedEndpoint (routeTargetKey route) = some (targetEndpoint route) ↔
      ':' ∉ (targetEndpoint route).1 := by
  rw [routeTargetKey_eq]
  constructor
  · intro decoded member
    rw [probedEndpoint_of_mem member] at decoded
    simp at decoded
  · intro absent
    exact probedEndpoint_of_not_mem absent _

theorem colon_not_mem_port {digits : Text} (port : (parseU16 digits).isSome) : ':' ∉ digits := by
  intro member
  rw [parseU16_eq_none_of_mem member (by decide) (by decide)] at port
  simp at port

/-- With one colon in all, there is none beside the one in front of the port. -/
theorem colon_not_mem_of_single {authority front back : Text} (single : SingleColon authority)
    (form : authority = front ++ ':' :: back) : ':' ∉ front := by
  rcases single with absent | ⟨host, digits, same, absent, port, _⟩
  · exact absurd (form ▸ by simp) absent
  · have counts := congrArg (List.count ':') (form.symm.trans same)
    rw [List.count_append, List.count_append, List.count_cons_self, List.count_cons_self,
      List.count_eq_zero_of_not_mem absent,
      List.count_eq_zero_of_not_mem (colon_not_mem_port port)] at counts
    rw [← List.count_eq_zero]
    omega

/-- Behind a bracket, the host of the key has no colon exactly when the authority has a single
one. -/
theorem colon_not_mem_bracketed_iff (b : Text) :
    ':' ∉ (match (splitOnce [']', ':'] b).bind fun (h, p) => (parseU16 p).map (h, ·) with
      | some (h, port) => ('[' :: h ++ [']'], port)
      | none => ('[' :: trimEndMatches ']' b ++ [']'], 443)).1 ↔ SingleColon (['['] ++ b) := by
  cases split : (splitOnce [']', ':'] b).bind fun (h, p) => (parseU16 p).map (h, ·) with
  | some found =>
      obtain ⟨⟨address, digits⟩, parts, read⟩ := Option.bind_eq_some_iff.mp split
      obtain ⟨port, parsed, rfl⟩ := Option.map_eq_some_iff.mp read
      have form : ['['] ++ b = ('[' :: address ++ [']']) ++ ':' :: digits := by
        rw [splitOnce_eq_some_append parts]
        simp
      constructor
      · intro absent
        exact Or.inr ⟨_, digits, form, absent, by simp [parsed], fun _ => ⟨address, rfl⟩⟩
      · exact fun single => colon_not_mem_of_single single form
  | none =>
      have colons : ':' ∈ '[' :: trimEndMatches ']' b ++ [']'] ↔ ':' ∈ ['['] ++ b := by
        simp [mem_trimEndMatches (show ':' ≠ ']' by decide)]
      dsimp only
      rw [colons]
      constructor
      · exact Or.inl
      · rintro (absent | ⟨host, digits, same, absent, port, closed⟩)
        · exact absent
        · -- the bracket is closed in front of the colon, where it would have been found
          have opens : ['['] <+: host := by
            cases host with
            | nil => exact absurd (List.cons.inj same).1 (by decide)
            | cons first rest =>
                rw [← (List.cons.inj same).1]
                exact List.prefix_append ['['] rest
          obtain ⟨address, rfl⟩ := closed opens
          have b_eq : b = address ++ [']', ':'] ++ digits := by simpa using same
          have inside : ¬ [']', ':'] <:+: address :=
            fun pair => absent (by simp [pair.subset (show ':' ∈ [']', ':'] by simp)])
          obtain ⟨value, parsed⟩ := Option.isSome_iff_exists.mp port
          rw [b_eq, splitOnce_pair (by decide) inside] at split
          simp [parsed] at split

/-- Without a bracket, the same. -/
theorem colon_not_mem_unbracketed_iff {authority : Text} (unopened : ¬ ['['] <+: authority)
    (otherwise : UInt16) :
    ':' ∉ (match (rsplitOnce ':' authority).bind fun (h, p) => (parseU16 p).map (h, ·) with
      | some (h, port) => (h, port)
      | none => (authority, otherwise)).1 ↔ SingleColon authority := by
  cases split : (rsplitOnce ':' authority).bind fun (h, p) => (parseU16 p).map (h, ·) with
  | some found =>
      obtain ⟨⟨host, digits⟩, parts, read⟩ := Option.bind_eq_some_iff.mp split
      obtain ⟨port, parsed, rfl⟩ := Option.map_eq_some_iff.mp read
      have form := (rsplitOnce_eq_some.mp parts).1
      constructor
      · intro absent
        refine Or.inr ⟨host, digits, form, absent, by simp [parsed], fun opens => ?_⟩
        exact absurd (opens.trans (form ▸ List.prefix_append host (':' :: digits))) unopened
      · exact fun single => colon_not_mem_of_single single form
  | none =>
      constructor
      · exact Or.inl
      · rintro (absent | ⟨host, digits, rfl, absent, port, _⟩)
        · exact absent
        · rw [rsplitOnce_append (colon_not_mem_port port)] at split
          obtain ⟨value, parsed⟩ := Option.isSome_iff_exists.mp port
          simp [parsed] at split

/-- The host in the key of a target has no colon exactly when its authority has a single one. -/
theorem colon_not_mem_target_iff (route : ProfileRoute) :
    ':' ∉ (targetEndpoint route).1 ↔ SingleColon (targetAuthority route) := by
  rw [targetEndpoint, targetAuthority]
  generalize (breakAt '/' (urlRest route.targetUrl)).1 = authority
  dsimp only
  cases opened : stripPrefix ['['] authority with
  | some b =>
      obtain rfl := stripPrefix_eq_some.mp opened
      exact colon_not_mem_bracketed_iff b
  | none => exact colon_not_mem_unbracketed_iff (stripPrefix_eq_none.mp opened) _

/-! ## Rounds -/

theorem once_of_decoded {round : HealthRound} {router : ProfileRouter} {email : Text}
    {route : ProfileRoute} (found : router.routes.lookup email = some route)
    (decoded : probedEndpoint (routeTargetKey route) = some (targetEndpoint route)) :
    (probes round router).count (routeTargetKey route, targetEndpoint route) = 1 := by
  have member : routeTargetKey route ∈ roundTargets round (groupTargets round.routeOrder router) :=
    mem_roundTargets_iff.mpr ⟨email, route, found, rfl⟩
  have distinct : (probes round router).Nodup := by
    refine (nodup_roundTargets _ _).filterMap ?_
    intro target other probe first second
    obtain ⟨_, _, rfl⟩ := Option.map_eq_some_iff.mp first
    obtain ⟨_, _, same⟩ := Option.map_eq_some_iff.mp second
    exact (congrArg Prod.fst same).symm
  refine List.count_eq_one_of_mem distinct (List.mem_filterMap.mpr ⟨_, member, ?_⟩)
  rw [decoded, Option.map_some]

theorem counted_of_decoded {round : HealthRound} {router : ProfileRouter}
    {failures : HashMap Text UInt32} {email : Text} {route : ProfileRoute}
    (found : router.routes.lookup email = some route)
    (decoded : probedEndpoint (routeTargetKey route) = some (targetEndpoint route))
    (unreachable :
      round.reachable (targetEndpoint route).1 (targetEndpoint route).2 = false) :
    ((roundTargets round (groupTargets round.routeOrder router)).foldl (probeTarget round)
      (failures, [])).1.lookup (routeTargetKey route) =
        some (failureCount failures (routeTargetKey route) + 1) := by
  have member : routeTargetKey route ∈ roundTargets round (groupTargets round.routeOrder router) :=
    mem_roundTargets_iff.mpr ⟨email, route, found, rfl⟩
  have outcome : probeOutcome round (routeTargetKey route) = some false := by
    rw [probeOutcome, decoded, Option.map_some]
    exact congrArg some unreachable
  rw [foldl_probeTarget_lookup (nodup_roundTargets _ _), if_pos member, countAfterProbe, outcome]

/-- A round sees to the target of every route exactly when each authority has a single colon. -/
theorem everyTargetProbed_iff (round : HealthRound) (router : ProfileRouter)
    (failures : HashMap Text UInt32) :
    EveryTargetProbed round router failures ↔
      ∀ email route, router.routes.lookup email = some route →
        SingleColon (targetAuthority route) := by
  constructor
  · intro probed email route found
    exact (colon_not_mem_target_iff route).mp ((decoded_iff route).mp
      (probed email route found).decoded)
  · intro single email route found
    have decoded : probedEndpoint (routeTargetKey route) = some (targetEndpoint route) :=
      (decoded_iff route).mpr ((colon_not_mem_target_iff route).mpr (single email route found))
    exact ⟨decoded, once_of_decoded found decoded, counted_of_decoded found decoded⟩

/-- An IPv6 target is listed and never probed. -/
theorem ipv6_target_not_probed :
    ¬ EveryTargetProbed (nothingReachable 1)
        (updateRoute .done (ProfileRouter.new none) "a@x.com".toList
          "http://[::1]:8799/hook".toList 0) ∅ ∧
      probes (nothingReachable 1) (updateRoute .done (ProfileRouter.new none) "a@x.com".toList
        "http://[::1]:8799/hook".toList 0) = [] := by
  refine ⟨fun probed => ?_, by decide⟩
  have decoded := (probed "a@x.com".toList _ (AList.lookup_insert _)).decoded
  exact absurd decoded (by decide)

end AimailBridge
