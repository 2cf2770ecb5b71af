import AimailBridge.Foundation.Interleaving
import AimailBridge.Router.Table

/-!
# Lookups among registrations and reloads

A lookup searches the exact routes under the read lock, tries the patterns, and only then inserts
the route it remembers.  An exact route installed in between is overridden; as long as no lookup
does that, every administered route stays what lookups return.
-/

namespace AimailBridge

open Foundation Text ProfileRouter

/-- A router with the exact routes that registrations and loads have installed. -/
structure Administered where
  /-- The router. -/
  router : ProfileRouter
  /-- The entry of each email as the last registration or load installed it. -/
  installed : HashMap Text ProfileRoute

/-- The points between the atomic steps of lookups, registrations and loads. -/
inductive TablePoint
  /-- Before the search of the exact routes. -/
  | search (email : Text)
  /-- Before the search of the patterns. -/
  | tryPatterns (email : Text)
  /-- Before the route of a matching pattern is inserted. -/
  | remember (route : ProfileRoute)
  /-- Before a registration inserts its route. -/
  | insert (email hostOrUrl : Text) (port : UInt16)
  /-- Before a load replaces both tables. -/
  | replace (order : IterationOrder Text ProfileRoute) (overrides : HashMap Text ProfileRoute)

/-- The lock sections of `lookup`, `update_route` and `load_from_file`. -/
def tableProgram (regex : RegexCrate) : Program Administered TablePoint where
  entry
    | .search _ | .insert _ _ _ | .replace _ _ => true
    | .tryPatterns _ | .remember _ => false
  step shared
    | .search email =>
        match shared.router.routes.lookup email with
        | some _ => some (shared, none)
        | none => some (shared, some (.tryPatterns email))
    | .tryPatterns email =>
        match matchPatterns regex shared.router email with
        | some pattern =>
            some (shared, some (.remember (ProfileRoute.new email pattern.host pattern.port)))
        | none => some (shared, none)
    | .remember route =>
        some ({ shared with
          router := { shared.router with
            routes := shared.router.routes.insert route.email route } }, none)
    | .insert email hostOrUrl port =>
        some ({
          router := { shared.router with
            routes := shared.router.routes.insert email (routeOfRequest email hostOrUrl port) }
          installed := shared.installed.insert email (routeOfRequest email hostOrUrl port) }, none)
    | .replace order overrides =>
        some ({
          router := installRoutes regex order overrides shared.router
          installed := (installRoutes regex order overrides shared.router).routes }, none)

variable {regex : RegexCrate}

/-- The steps of a lookup that runs alone are the lookup. -/
theorem alone_search (shared : Administered) (email : Text) :
    (tableProgram regex).alone 3 shared (.search email) =
      some { shared with router := (lookup regex shared.router email).2 } := by
  rw [ProfileRouter.lookup]
  cases found : shared.router.routes.lookup email with
  | some route => simp [Program.alone, tableProgram, found]
  | none =>
      cases matched : matchPatterns regex shared.router email <;>
        simp [Program.alone, tableProgram, found, matched]

/-- Lookups return the installed entry of every administered email. -/
def PriorityKept (regex : RegexCrate) (shared : Administered) : Prop :=
  ∀ email route, shared.installed.lookup email = some route →
    (lookup regex shared.router email).1 = some route

/-- The step does not insert a remembered route for an email that has meanwhile been given another
one. -/
def RemembersInTime (pool : Pool Administered TablePoint) : Action TablePoint → Prop
  | .start _ => True
  | .advance index =>
      ∀ remembered route, pool.threads[index]? = some (.remember remembered) →
        pool.shared.installed.lookup remembered.email = some route → route = remembered

/-- A step overrides no installed entry, unless it remembers a route too late. -/
theorem installed_submap_step {shared after : Administered} {point : TablePoint}
    {continuation : Option TablePoint} (kept : shared.installed.Submap shared.router.routes)
    (in_time : ∀ remembered route, point = .remember remembered →
      shared.installed.lookup remembered.email = some route → route = remembered)
    (stepped : (tableProgram regex).step shared point = some (after, continuation)) :
    after.installed.Submap after.router.routes := by
  cases point with
  | search email =>
      simp only [tableProgram] at stepped
      split at stepped <;> cases stepped <;> exact kept
  | tryPatterns email =>
      simp only [tableProgram] at stepped
      split at stepped <;> cases stepped <;> exact kept
  | remember remembered =>
      cases stepped
      intro email route found
      by_cases same : email = remembered.email
      · subst same
        rw [in_time remembered route rfl found]
        exact AList.lookup_insert _
      · exact (AList.lookup_insert_ne same).trans (kept email route found)
  | insert email hostOrUrl port =>
      cases stepped
      exact kept.insert email _
  | replace order overrides =>
      cases stepped
      exact fun email route found => found

/-- In every run in which no lookup remembers a route too late, lookups return the installed entry
of every administered email. -/
theorem priorityKept_run {router : ProfileRouter} {schedule : List (Action TablePoint)}
    {final : Pool Administered TablePoint}
    (in_time : (tableProgram regex).Obeys RemembersInTime schedule ⟨⟨router, ∅⟩, []⟩)
    (execution : (tableProgram regex).run schedule ⟨⟨router, ∅⟩, []⟩ = some final) :
    PriorityKept regex final.shared := by
  have keeps : (tableProgram regex).Keeps
      (fun shared _ => shared.installed.Submap shared.router.routes) RemembersInTime := by
    refine ⟨fun _ _ _ _ kept => kept, fun _ _ _ _ kept => kept, ?_⟩
    intro pool index point shared continuation guarded found stepped kept
    refine installed_submap_step kept (fun remembered route same => ?_) stepped
    exact guarded remembered route (same ▸ found)
  have kept := keeps.run in_time execution (HashMap.all_empty _)
  exact fun email route found => by rw [lookup_exact (kept email route found)]

/-- A router that has loaded one pattern, which serves every address of its domain. -/
def patternRouter : ProfileRouter :=
  loadFromFile Toml.fragment RegexCrate.simple (.inOrder _ _)
    (ProfileRouter.new (some "\".*@x.org\" = \"10.0.0.7:8645\"".toList))

/-- A lookup that is overtaken by a registration overrides it. -/
theorem remembered_overrides : ∃ final : Pool Administered TablePoint,
    (tableProgram RegexCrate.simple).run
      [.start (.search "bot@x.org".toList), .advance 0, .advance 0,
        .start (.insert "bot@x.org".toList "10.0.0.9".toList 9000), .advance 1, .advance 0]
      ⟨⟨patternRouter, ∅⟩, []⟩ = some final ∧
    final.Quiescent ∧ ¬ PriorityKept RegexCrate.simple final.shared := by
  refine ⟨_, rfl, rfl, fun kept => ?_⟩
  have overridden := kept "bot@x.org".toList
    (ProfileRoute.new "bot@x.org".toList "10.0.0.9".toList 9000) (by decide)
  exact absurd overridden (by decide)

/-- A lookup that finishes before the registration overrides nothing. -/
theorem priorityKept_in_time : PriorityKept RegexCrate.simple
    { router := { patternRouter with
        routes := (patternRouter.routes.insert "bot@x.org".toList
          (ProfileRoute.new "bot@x.org".toList "10.0.0.7".toList 8645)).insert "bot@x.org".toList
            (routeOfRequest "bot@x.org".toList "10.0.0.9".toList 9000) }
      installed := (∅ : HashMap Text ProfileRoute).insert "bot@x.org".toList
        (routeOfRequest "bot@x.org".toList "10.0.0.9".toList 9000) } := by
  refine @priorityKept_run RegexCrate.simple patternRouter
    [.start (.search "bot@x.org".toList), .advance 0, .advance 0, .advance 0,
      .start (.insert "bot@x.org".toList "10.0.0.9".toList 9000), .advance 0] ⟨⟨_, _⟩, []⟩ ?_ rfl
  refine Program.obeys_cons _ rfl trivial ?_
  refine Program.obeys_cons _ rfl (fun _ _ found _ => nomatch found) ?_
  refine Program.obeys_cons _ rfl (fun _ _ found _ => nomatch found) ?_
  refine Program.obeys_cons _ rfl (fun _ _ _ installed => by simp at installed) ?_
  refine Program.obeys_cons _ rfl trivial ?_
  exact Program.obeys_cons _ rfl (fun _ _ found _ => nomatch found) trivial

end AimailBridge
