import AimailBridge.Foundation.Routing

/-!
# Assembling routers

A router can be carried over to another state and another kind of answer, and two routers can be
merged.  Merging keeps the routes of both and the fallback of one of them: the second router's,
unless the first has one of its own.
-/

namespace Foundation

variable {σ τ ο π : Type*}

namespace Router

/-- Put every service of a router to another use. -/
def transform (use : Service σ ο → Service τ π) (router : Router σ ο) : Router τ π where
  routes := router.routes.map fun route =>
    { pattern := route.pattern, endpoint := fun captured => use (route.endpoint captured) }
  fallback := use router.fallback
  defaultFallback := router.defaultFallback

/-- What merging two routers asks of them: it refuses two fallbacks, and routes that meet. -/
structure Mergeable (router other : Router σ ο) : Prop where
  /-- One of them has the fallback that every router begins with. -/
  fallbacks : router.defaultFallback = true ∨ other.defaultFallback = true
  /-- No path has a route in both. -/
  disjoint : ∀ path, router.routed path = none ∨ other.routed path = none

/-- `Router::merge`. -/
def merge (router other : Router σ ο) (_ : Mergeable router other) : Router σ ο where
  routes := router.routes ++ other.routes
  fallback := if router.defaultFallback then other.fallback else router.fallback
  defaultFallback := router.defaultFallback && other.defaultFallback

variable {router other : Router σ ο} {path : Text} {use : Service σ ο → Service τ π}

@[simp]
theorem routed_transform : (router.transform use).routed path = (router.routed path).map use := by
  rw [routed, routed, transform, List.findSome?_map, List.map_findSome?]
  congr 1
  funext route
  rw [Function.comp_apply, Function.comp_apply, Option.map_map]
  rfl

@[simp]
theorem select_transform : (router.transform use).select path = use (router.select path) := by
  rw [select, select, routed_transform]
  cases router.routed path <;> rfl

@[simp]
theorem routed_merge (mergeable : Mergeable router other) :
    (router.merge other mergeable).routed path = (router.routed path).or (other.routed path) := by
  rw [routed, merge, List.findSome?_append]
  rfl

/-- A path that the first router has a route for leads there. -/
theorem select_merge_left (mergeable : Mergeable router other)
    (own : (router.routed path).isSome) :
    (router.merge other mergeable).select path = router.select path := by
  obtain ⟨service, found⟩ := Option.isSome_iff_exists.mp own
  rw [select, select, routed_merge, found]
  rfl

/-- Every other path leads where it leads in the second router, when the first has no fallback of
its own. -/
theorem select_merge_right (mergeable : Mergeable router other)
    (fallback : router.defaultFallback = true) (foreign : router.routed path = none) :
    (router.merge other mergeable).select path = other.select path := by
  rw [select, select, routed_merge, foreign, Option.none_or, merge, if_pos fallback]

@[simp]
theorem defaultFallback_transform :
    (router.transform use).defaultFallback = router.defaultFallback := rfl

@[simp]
theorem defaultFallback_layer (wrap : Service σ ο → Service σ ο) :
    (router.layer wrap).defaultFallback = router.defaultFallback := rfl

@[simp]
theorem defaultFallback_guardedBy {check : Option (Check σ ο)} :
    (router.guardedBy check).defaultFallback = router.defaultFallback := by
  cases check <;> rfl

end Router

/-! ## Changed answers -/

section Changing

variable {change : ο → ο} {answer : UInt16 → ο} {check : Option (Check σ ο)}

namespace Router

variable {router inner : Router σ ο} {use : Service σ ο → Service τ π}

end Router
end Changing

/-! ## Routes without captures -/

/-- Different paths have different segments. -/
theorem segments_injective : Function.Injective segments := fun left right same => by
  rw [← @List.intercalate_splitOn _ left _ _ '/', ← @List.intercalate_splitOn _ right _ _ '/']
  exact congrArg _ same

theorem matchSegments_literals (texts listed : List Text) :
    matchSegments (texts.map .literal) listed = if listed = texts then some [] else none := by
  induction texts generalizing listed with
  | nil => cases listed <;> rfl
  | cons text texts induction =>
      cases listed with
      | nil => rfl
      | cons segment listed =>
          rw [List.map_cons, matchSegments, induction]
          by_cases same : segment = text <;> simp [same]

/-- A pattern in which nothing captures matches its own text alone. -/
theorem matchSegments_plain {own : Text}
    (plain : (segments own).map Segment.ofText = (segments own).map .literal) (path : Text) :
    matchSegments ((segments own).map Segment.ofText) (segments path) =
      if path = own then some [] else none := by
  rw [plain, matchSegments_literals]
  exact if_congr segments_injective.eq_iff rfl rfl

/-! ## Relations that services keep -/

/-- A service takes related states to related states. -/
def KeepsRelated (related : σ → σ → Prop) (service : Service σ ο) : Prop :=
  ∀ request left right, related left right →
    related (service request left).2 (service request right).2

section Keeping

variable {related : σ → σ → Prop} {next : Service σ ο} {check : Option (Check σ ο)}

/-- A service that leaves every state alone keeps every relation. -/
theorem keepsRelated_of_state (same : ∀ request state, (next request state).2 = state) :
    KeepsRelated related next := fun request left right holds => by
  rw [same, same]
  exact holds

/-- A middleware that decides alike in related states keeps what the service behind it keeps. -/
theorem keepsRelated_guarded
    (alike : ∀ present, check = some present → ∀ request left right, related left right →
      (present request left).1 = (present request right).1 ∧
        related (present request left).2 (present request right).2)
    (keeps : KeepsRelated related next) : KeepsRelated related (guarded check next) := by
  intro request left right holds
  cases check with
  | none => exact keeps request left right holds
  | some present =>
      obtain ⟨verdict, after⟩ := alike present rfl request left right holds
      rw [guarded, guarded]
      cases decided_left : present request left with
      | mk refusal_left state_left =>
          cases decided_right : present request right with
          | mk refusal_right state_right =>
              rw [decided_left, decided_right] at verdict after
              obtain rfl : refusal_left = refusal_right := verdict
              cases refusal_left with
              | some refusal => exact after
              | none => exact keeps request _ _ after

theorem keepsRelated_onMethod {answer : UInt16 → ο} {handlers : List (Method × Service σ ο)}
    (keeps : ∀ handler ∈ handlers, KeepsRelated related handler.2) :
    KeepsRelated related (onMethod answer handlers) := by
  have found : ∀ method service, handlers.lookup method = some service →
      KeepsRelated related service := by
    intro method service present
    obtain ⟨front, back, same, _⟩ := List.lookup_eq_some_iff.mp present
    exact keeps (method, service) (by simp [same])
  intro request left right holds
  simp only [onMethod]
  cases own : handlers.lookup request.method with
  | some handler => exact found _ _ own request left right holds
  | none =>
      cases head : (if request.method = .head then handlers.lookup .get else none) with
      | none => exact holds
      | some handler =>
          obtain ⟨_, get⟩ := Option.ite_none_right_eq_some.mp head
          exact found _ _ get request left right holds

/-- A route for `GET` and `POST`. -/
theorem onMethod_get_post (answer : UInt16 → ο) (get post : Service σ ο) (request : Incoming)
    (state : σ) :
    onMethod answer [(.get, get), (.post, post)] request state =
      if request.method = .post then post request state
      else onMethod answer [(.get, get)] request state := by
  obtain ⟨method⟩ := request
  cases method <;> rfl

/-- When none of its handlers touches the state, a method router does not. -/
theorem onMethod_state {answer : UInt16 → ο} {handlers : List (Method × Service σ ο)}
    (keeps : ∀ handler ∈ handlers, ∀ request state, (handler.2 request state).2 = state)
    (request : Incoming) (state : σ) : (onMethod answer handlers request state).2 = state := by
  have kept : KeepsRelated (fun left right => left = state ∧ right = state)
      (onMethod answer handlers) :=
    keepsRelated_onMethod fun handler listed => keepsRelated_of_state (keeps handler listed)
  exact (kept request state state ⟨rfl, rfl⟩).1

namespace Router

variable {router inner : Router σ ο} {path : Text}

/-- An added route serves the path, or whatever served it before does. -/
theorem select_route_cases (own : Text) (endpoint : List (Text × Text) → Service σ ο) :
    (router.route own endpoint).select path = router.select path ∨
      ∃ captured, (router.route own endpoint).select path = endpoint captured := by
  rw [select, routed_route]
  cases found : router.routed path with
  | some service =>
      left
      rw [select, found]
      rfl
  | none =>
      cases matchSegments ((segments own).map Segment.ofText) (segments path) with
      | none =>
          left
          rw [select, found]
          rfl
      | some captured => exact Or.inr ⟨captured, rfl⟩

theorem select_nestRoot_cases :
    (router.nestRoot inner).select path = router.select path ∨
      (router.nestRoot inner).select path = inner.select path := by
  rw [select, routed_nestRoot]
  cases found : router.routed path with
  | some service =>
      left
      rw [select, found]
      rfl
  | none =>
      cases within : inner.routed path with
      | none =>
          left
          rw [select, found]
          rfl
      | some service =>
          right
          rw [select, within]
          rfl

theorem keepsRelated_route {own : Text} {endpoint : List (Text × Text) → Service σ ο}
    (others : ∀ path, KeepsRelated related (router.select path))
    (keeps : ∀ captured, KeepsRelated related (endpoint captured)) (path : Text) :
    KeepsRelated related ((router.route own endpoint).select path) := by
  rcases @select_route_cases _ _ router path own endpoint with same | ⟨captured, same⟩
  · rw [same]
    exact others path
  · rw [same]
    exact keeps captured

theorem keepsRelated_nestRoot (outer : ∀ path, KeepsRelated related (router.select path))
    (keeps : ∀ path, KeepsRelated related (inner.select path)) (path : Text) :
    KeepsRelated related ((router.nestRoot inner).select path) := by
  rcases @select_nestRoot_cases _ _ router inner path with same | same
  · rw [same]
    exact outer path
  · rw [same]
    exact keeps path

end Router
end Keeping
end Foundation
