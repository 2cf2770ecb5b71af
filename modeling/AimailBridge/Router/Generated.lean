import AimailBridge.Router.Persistence

/-!
# The generated routes file

Strings from the admin API, from request headers and from the file itself reach the table and are
written without escapes.  The generated file is well formed, with exactly the emails of the table as
its keys, throughout every run that only takes in strings a basic string can hold as they are.
-/

namespace AimailBridge

open Foundation Text Toml ProfileRouter

/-! ## Runs of the router -/

/-- One call on the router, or an edit of its file by hand. -/
inductive RouterCall
  /-- `POST /api/v1/routes`. -/
  | create (disk : DiskWrite) (email host : Text) (port : UInt16)
  /-- `DELETE /api/v1/routes/{email}`. -/
  | delete (disk : DiskWrite) (email : Text)
  /-- A lookup, with an email taken from a request. -/
  | lookup (email : Text)
  /-- A load, with the order in which its loops walk the parsed table. -/
  | load (order : IterationOrder Text ProfileRoute)
  /-- The file is replaced from outside. -/
  | edit (content : Option Text)

namespace ProfileRouter

/-- The admin handler for new routes; it turns empty fields away. -/
def createRoute (disk : DiskWrite) (router : ProfileRouter) (email host : Text) (port : UInt16) :
    ProfileRouter :=
  if email = [] ∨ host = [] ∨ port = 0 then router else updateRoute disk router email host port

/-- The router after one call. -/
def apply (fromStr : Text → Option (HashMap Text Text)) (regex : RegexCrate)
    (router : ProfileRouter) : RouterCall → ProfileRouter
  | .create disk email host port => createRoute disk router email host port
  | .delete disk email => removeRoute disk router email
  | .lookup email => (lookup regex router email).2
  | .load order => loadFromFile fromStr regex order router
  | .edit content => { router with routesFile := content }

/-- The router after a run of calls. -/
def calls (fromStr : Text → Option (HashMap Text Text)) (regex : RegexCrate)
    (router : ProfileRouter) (run : List RouterCall) : ProfileRouter :=
  run.foldl (apply fromStr regex) router

end ProfileRouter

variable {fromStr : Text → Option (HashMap Text Text)} {regex : RegexCrate}

/-- The text generated for a table parses, and its keys are the emails of the table. -/
def GeneratesWellFormed (fromStr : Text → Option (HashMap Text Text))
    (routes : HashMap Text ProfileRoute) : Prop :=
  ∃ parsed, fromStr (renderRoutes routes) = some parsed ∧ ∀ email, email ∈ parsed ↔ email ∈ routes

/-- Whatever entry a call takes into the table can be written as it is. -/
def TakesWritable (fromStr : Text → Option (HashMap Text Text)) (regex : RegexCrate)
    (router : ProfileRouter) : RouterCall → Prop
  | .create _ email host port => Writable email (routeOfRequest email host port)
  | .delete _ _ => True
  | .lookup email =>
      ∀ pattern, router.routes.lookup email = none →
        matchPatterns regex router email = some pattern →
        Writable email (ProfileRoute.new email pattern.host pattern.port)
  | .load _ =>
      ∀ email route, (loadRoutesFile fromStr router.routesFile).lookup email = some route →
        isRegexPattern email = false → Writable email route
  | .edit _ => True

/-- Every call of a run takes in writable entries only. -/
def RunTakesWritable (fromStr : Text → Option (HashMap Text Text)) (regex : RegexCrate) :
    ProfileRouter → List RouterCall → Prop
  | _, [] => True
  | router, call :: run =>
      TakesWritable fromStr regex router call ∧
        RunTakesWritable fromStr regex (apply fromStr regex router call) run

/-! ## Tables of writable entries -/

theorem generatesWellFormed (standard : Standard fromStr) {routes : HashMap Text ProfileRoute}
    (writable : routes.All Writable) : GeneratesWellFormed fromStr routes := by
  obtain ⟨parsed, accepted, lookups⟩ := parse_renderRoutes standard writable
  refine ⟨parsed, accepted, fun email => ?_⟩
  rw [← AList.lookup_isSome, ← AList.lookup_isSome, lookups email, Option.isSome_map]

/-- A call that takes in writable entries keeps the table writable. -/
theorem writable_apply {router : ProfileRouter} (writable : router.routes.All Writable)
    {call : RouterCall} (takes : TakesWritable fromStr regex router call) :
    (apply fromStr regex router call).routes.All Writable := by
  cases call with
  | create disk email host port =>
      rw [apply, createRoute]
      split
      · exact writable
      · exact writable.insert takes
  | delete disk email => exact writable.erase email
  | lookup email =>
      rw [apply, ProfileRouter.lookup]
      split
      · exact writable
      · next missing =>
          split
          · next pattern matched => exact writable.insert (takes pattern missing matched)
          · exact writable
  | load order =>
      intro email route found
      rw [apply, loadFromFile_routes_lookup] at found
      split at found
      · simp at found
      · next exact_key => exact takes email route found (Bool.not_eq_true _ ▸ exact_key)
  | edit content => exact writable

theorem writable_calls {router : ProfileRouter} (writable : router.routes.All Writable)
    {run : List RouterCall} (takes : RunTakesWritable fromStr regex router run) :
    (calls fromStr regex router run).routes.All Writable := by
  induction run generalizing router with
  | nil => exact writable
  | cons call run induction => exact induction (writable_apply writable takes.1) takes.2

/-- After every run that takes in writable entries only, the generated file parses and its keys are
the emails in memory. -/
theorem calls_generateWellFormed (standard : Standard fromStr) (routesFile : Option Text)
    {run : List RouterCall}
    (takes : RunTakesWritable fromStr regex (ProfileRouter.new routesFile) run) :
    GeneratesWellFormed fromStr (calls fromStr regex (ProfileRouter.new routesFile) run).routes :=
  generatesWellFormed standard (writable_calls (HashMap.all_empty Writable) takes)

/-- Plain registrations keep the generated file well formed. -/
theorem calls_generateWellFormed_plain :
    GeneratesWellFormed Toml.fragment
      (calls Toml.fragment RegexCrate.simple (ProfileRouter.new none)
        [.create .done "bot@x.org".toList "10.0.0.7".toList 8645, .delete .done "old@x.org".toList,
          .create (.failed none) "new@x.org".toList "https://10.0.0.8/hook".toList 1]).routes :=
  calls_generateWellFormed fragment_standard none
    ⟨show Writable _ _ by decide, trivial, show Writable _ _ by decide, trivial⟩

/-- A quote in an email makes the generated file unreadable. -/
theorem quote_breaks_file :
    ¬ GeneratesWellFormed Toml.fragment
      (calls Toml.fragment RegexCrate.simple (ProfileRouter.new none)
        [.create .done "a\"b@x.org".toList "10.0.0.7".toList 8645]).routes := by
  intro generates
  obtain ⟨parsed, accepted, _⟩ := generates
  have unreadable : Toml.fragment (renderRoutes (calls Toml.fragment RegexCrate.simple
      (ProfileRouter.new none) [.create .done "a\"b@x.org".toList "10.0.0.7".toList 8645]).routes) =
        none := by
    decide
  rw [unreadable] at accepted
  simp at accepted

/-- One registration is already written under a wrong key, or not readable at all, when its email
would need an escape. -/
theorem generatesWellFormed_single_iff (standard : Standard fromStr) {email : Text}
    {route : ProfileRoute} (value_reads : (content (persistedValue route)).isSome) :
    GeneratesWellFormed fromStr ((∅ : HashMap Text ProfileRoute).insert email route) ↔
      Plain email := by
  constructor
  · rintro ⟨parsed, accepted, keys⟩
    have bodies : writtenBodies ((∅ : HashMap Text ProfileRoute).insert email route) =
        [(email, persistedValue route)] := by
      have keys_single : sortedKeys ((∅ : HashMap Text ProfileRoute).insert email route) =
          [email] := by
        simp [sortedKeys]
      rw [writtenBodies, keys_single, List.filterMap_cons, AList.lookup_insert]
      rfl
    have opens : renderRoutes ((∅ : HashMap Text ProfileRoute).insert email route) =
        unlines fileHeader ++
          '"' :: (email ++ '"' :: (" = \"".toList ++ persistedValue route ++ ['"', '\n'])) := by
      rw [renderRoutes_eq, bodies, unlines_append]
      simp [unlines, entryLine]
    rw [opens] at accepted
    obtain ⟨key, rest, scanned, member⟩ :=
      standard.firstKey _ _ _ fileHeader_comments accepted
    obtain rfl : key = email := by
      have single := (keys key).mp member
      rw [AList.insert_empty] at single
      exact List.mem_singleton.mp single
    exact plain_of_scan_self scanned
  · intro plain
    exact generatesWellFormed standard ((HashMap.all_empty Writable).insert ⟨plain, value_reads⟩)

end AimailBridge
