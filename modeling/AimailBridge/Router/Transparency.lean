import AimailBridge.Foundation.Runs
import AimailBridge.Router.Reload

/-!
# What lookups leave behind

A lookup that finds an email by a pattern remembers the route among the registered ones, where it is
listed and written to the file.  A run of the router shows the same table as the run without its
lookups exactly when no lookup remembers anything.
-/

namespace AimailBridge

open Foundation ProfileRouter

/-- One call on the router, or a change of its file from outside. -/
inductive RouterStep
  /-- A registration or a removal. -/
  | change (call : RouteChange)
  /-- A load of the file. -/
  | load (order : IterationOrder Text ProfileRoute)
  /-- The file is replaced from outside. -/
  | edit (content : Option Text)
  /-- A lookup, with an email taken from a request. -/
  | lookup (email : Text)

namespace RouterStep

/-- The router after the step. -/
def applyTo (fromStr : Text → Option (HashMap Text Text)) (regex : RegexCrate)
    (router : ProfileRouter) : RouterStep → ProfileRouter
  | .change call => call.applyTo router
  | .load order => loadFromFile fromStr regex order router
  | .edit content => { router with routesFile := content }
  | .lookup email => (ProfileRouter.lookup regex router email).2

/-- The step is a call of `lookup`. -/
def isLookup : RouterStep → Bool
  | .lookup _ => true
  | _ => false

/-- The router after a run. -/
def runFrom (fromStr : Text → Option (HashMap Text Text)) (regex : RegexCrate)
    (router : ProfileRouter) (run : List RouterStep) : ProfileRouter :=
  run.foldl (applyTo fromStr regex) router

end RouterStep

/-- Two routers list the same routes and emails, write the same text and have the same file. -/
structure ShowsSame (left right : ProfileRouter) : Prop where
  /-- `list_routes` gives the same routes. -/
  routes : (listRoutes left).Perm (listRoutes right)
  /-- `list_emails` gives the same emails. -/
  emails : (listEmails left).Perm (listEmails right)
  /-- `write_current_routes` writes the same text. -/
  written : renderRoutes left.routes = renderRoutes right.routes
  /-- The file holds the same text. -/
  file : left.routesFile = right.routesFile

theorem ShowsSame.refl (router : ProfileRouter) : ShowsSame router router :=
  ⟨List.Perm.refl _, List.Perm.refl _, rfl, rfl⟩

variable {fromStr : Text → Option (HashMap Text Text)} {regex : RegexCrate}

/-- At no point does a run show another table than the same run without its lookups. -/
def LookupsUnobserved (fromStr : Text → Option (HashMap Text Text)) (regex : RegexCrate)
    (router : ProfileRouter) (run : List RouterStep) : Prop :=
  ∀ before, before <+: run →
    ShowsSame (RouterStep.runFrom fromStr regex router before)
      (RouterStep.runFrom fromStr regex router (before.filter fun step => !step.isLookup))

/-- A lookup is for an email that has a route of its own, or that no pattern matches. -/
def RemembersNothing (regex : RegexCrate) (router : ProfileRouter) : RouterStep → Prop
  | .lookup email =>
      router.routes.lookup email = none → matchPatterns regex router email = none
  | _ => True

theorem lookup_unchanged {router : ProfileRouter} {email : Text}
    (nothing : RemembersNothing regex router (.lookup email)) :
    (ProfileRouter.lookup regex router email).2 = router := by
  cases exact_route : router.routes.lookup email with
  | some route => rw [lookup_exact exact_route]
  | none => simp [ProfileRouter.lookup, exact_route, nothing exact_route]

/-- A remembered email is listed from then on. -/
theorem mem_listEmails_lookup {router : ProfileRouter} {email : Text} {pattern : RegexPattern}
    (missing : router.routes.lookup email = none)
    (found : matchPatterns regex router email = some pattern) :
    email ∈ listEmails (ProfileRouter.lookup regex router email).2 := by
  have remembered : (ProfileRouter.lookup regex router email).2.routes.lookup email =
      some (ProfileRoute.new email pattern.host pattern.port) := by
    simp [ProfileRouter.lookup, missing, found]
  exact HashMap.mem_keys_iff_lookup.mpr (Option.isSome_of_eq_some remembered)

/-- A lookup that remembers something shows at once. -/
theorem remembersNothing_of_showsSame {router : ProfileRouter} {email : Text}
    (same : ShowsSame (ProfileRouter.lookup regex router email).2 router) :
    RemembersNothing regex router (.lookup email) := by
  intro missing
  by_contra matched
  obtain ⟨pattern, found⟩ := Option.ne_none_iff_exists'.mp matched
  have listed := same.emails.mem_iff.mp (mem_listEmails_lookup missing found)
  have exact_route := HashMap.mem_keys_iff_lookup.mp listed
  simp [missing] at exact_route

/-- After a step that remembers nothing, a run compares to its shorter one as the rest does. -/
theorem showsSame_cons {router : ProfileRouter} {step : RouterStep}
    (nothing : RemembersNothing regex router step) (before : List RouterStep) :
    ShowsSame (RouterStep.runFrom fromStr regex router (step :: before))
        (RouterStep.runFrom fromStr regex router
          ((step :: before).filter fun step => !step.isLookup)) ↔
      ShowsSame (RouterStep.runFrom fromStr regex (step.applyTo fromStr regex router) before)
        (RouterStep.runFrom fromStr regex (step.applyTo fromStr regex router)
          (before.filter fun step => !step.isLookup)) := by
  cases step with
  | lookup email =>
      simp [RouterStep.runFrom, RouterStep.applyTo, RouterStep.isLookup, lookup_unchanged nothing]
  | _ => rfl

/-- A run without its lookups shows the same tables exactly when each of them is for an email with a
route of its own, or for one that no pattern matches. -/
theorem lookupsUnobserved_iff (router : ProfileRouter) (run : List RouterStep) :
    LookupsUnobserved fromStr regex router run ↔
      Guarded (RouterStep.applyTo fromStr regex) (RemembersNothing regex) router run := by
  induction run generalizing router with
  | nil =>
      refine iff_of_true (fun before front => ?_) trivial
      obtain rfl := List.prefix_nil.mp front
      exact ShowsSame.refl router
  | cons step run induction =>
      constructor
      · intro unobserved
        have nothing : RemembersNothing regex router step := by
          cases step with
          | lookup email =>
              exact remembersNothing_of_showsSame
                (unobserved [.lookup email] (List.prefix_append _ run))
          | _ => trivial
        refine ⟨nothing, (induction _).mp fun before front => ?_⟩
        have later := unobserved (step :: before) (List.cons_prefix_cons.mpr ⟨rfl, front⟩)
        exact (showsSame_cons nothing before).mp later
      · intro remembers before front
        cases before with
        | nil => exact ShowsSame.refl router
        | cons first before =>
            obtain ⟨rfl, shorter⟩ := List.cons_prefix_cons.mp front
            have later := (induction _).mpr remembers.2 before shorter
            exact (showsSame_cons remembers.1 before).mpr later

/-- A lookup for an address that was never registered puts it into the file. -/
theorem lookup_observed :
    ¬ LookupsUnobserved Toml.fragment RegexCrate.simple (ProfileRouter.new (some patternFile))
      [.load (.inOrder _ _), .lookup "agent@x.org".toList,
        .change (.update .done "bot@y.org".toList "10.0.0.8".toList 8645)] := by
  intro unobserved
  have same := (unobserved _ (List.prefix_refl _)).emails.length_eq
  exact absurd same (by decide)

end AimailBridge
