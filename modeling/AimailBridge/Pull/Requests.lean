import AimailBridge.Foundation.Runs
import AimailBridge.Pull.Loop
import AimailBridge.Router.Generated

/-!
# What the pull loop asks for

The filter of the poll request comes from the emails that have a route of their own; lookups also
find emails by the patterns.  Every routable email is asked for throughout a run exactly when the
emails that a pattern matches always share their domain with one that has a route of its own.
-/

namespace AimailBridge

open Foundation Text ProfileRouter Pull

/-- The next poll is sent and asks for the domain of the email. -/
def Requested (config : PullSystemConfig) (router : ProfileRouter) (email : Text) : Prop :=
  ∃ request, pollRequest config router = some request ∧ domain email ∈ request.filter

/-- The next poll asks for every email that a lookup would route. -/
def AllRequested (config : PullSystemConfig) (regex : RegexCrate) (router : ProfileRouter) : Prop :=
  ∀ email, (lookup regex router email).1.isSome → Requested config router email

theorem requested_iff {config : PullSystemConfig} {router : ProfileRouter} {email : Text} :
    Requested config router email ↔
      ∃ known ∈ listEmails router, domain known = domain email := by
  constructor
  · rintro ⟨request, sent, asked⟩
    obtain ⟨_, request_eq⟩ := Option.ite_none_left_eq_some.mp sent
    obtain rfl := Option.some.inj request_eq
    simpa using asked
  · rintro ⟨known, member, same⟩
    have nonempty : listEmails router ≠ [] := List.ne_nil_of_mem member
    refine ⟨_, if_neg nonempty, ?_⟩
    simpa using ⟨known, member, same⟩

/-- An email with a route of its own is in the list, so only patterns can match unasked. -/
theorem allRequested_iff {config : PullSystemConfig} {regex : RegexCrate} {router : ProfileRouter} :
    AllRequested config regex router ↔
      ∀ pattern ∈ router.regexPatterns, ∀ email, regex.isMatch pattern.re email = true →
        ∃ known ∈ listEmails router, domain known = domain email := by
  constructor
  · intro requested pattern member email matching
    exact requested_iff.mp
      (requested email (lookup_isSome.mpr (Or.inr ⟨pattern, member, matching⟩)))
  · intro covered email routed
    apply requested_iff.mpr
    rcases lookup_isSome.mp routed with own | ⟨pattern, member, matching⟩
    · exact ⟨email, HashMap.mem_keys_iff_lookup.mpr own, rfl⟩
    · exact covered pattern member email matching

variable {config : PullSystemConfig} {fromStr : Text → Option (HashMap Text Text)}
  {regex : RegexCrate}

/-- The call takes no domain off the list in which a pattern matches some email: a load puts no
pattern in force for a domain of which its file has no exact email, and a removal leaves another
email of the domain. -/
def KeepsDomains (fromStr : Text → Option (HashMap Text Text)) (regex : RegexCrate)
    (router : ProfileRouter) : RouterCall → Prop
  | .load _ =>
      ∀ pattern route, (loadRoutesFile fromStr router.routesFile).lookup pattern = some route →
        isRegexPattern pattern = true → regex.compiles pattern = true →
          ∀ email, regex.isMatch pattern email = true →
            ∃ known ∈ loadRoutesFile fromStr router.routesFile,
              isRegexPattern known = false ∧ domain known = domain email
  | .delete _ removed =>
      ∀ pattern ∈ router.regexPatterns, ∀ email, regex.isMatch pattern.re email = true →
        domain email = domain removed →
          ∃ known ∈ listEmails router, known ≠ removed ∧ domain known = domain removed
  | _ => True

theorem allRequested_new (routesFile : Option Text) :
    AllRequested config regex (ProfileRouter.new routesFile) :=
  allRequested_iff.mpr fun pattern member => by simp [ProfileRouter.new] at member

/-- More emails with a route of their own ask for more. -/
theorem AllRequested.more {router after : ProfileRouter}
    (requested : AllRequested config regex router)
    (patterns : after.regexPatterns = router.regexPatterns)
    (emails : ∀ email ∈ listEmails router, email ∈ listEmails after) :
    AllRequested config regex after := by
  rw [allRequested_iff, patterns]
  intro pattern member email matching
  obtain ⟨known, listed, same⟩ := allRequested_iff.mp requested pattern member email matching
  exact ⟨known, emails known listed, same⟩

theorem listEmails_insert {router : ProfileRouter} (key : Text) (route : ProfileRoute) :
    ∀ email ∈ listEmails router,
      email ∈ listEmails { router with routes := router.routes.insert key route } := by
  intro email listed
  exact (AList.mem_insert router.routes).mpr (Or.inr listed)

theorem allRequested_load {router : ProfileRouter} (order : IterationOrder Text ProfileRoute) :
    AllRequested config regex (loadFromFile fromStr regex order router) ↔
      KeepsDomains fromStr regex router (.load order) := by
  have listed : ∀ known, known ∈ listEmails (loadFromFile fromStr regex order router) ↔
      isRegexPattern known = false ∧ known ∈ loadRoutesFile fromStr router.routesFile := by
    intro known
    rw [listEmails, HashMap.mem_keys_iff_lookup, loadFromFile_routes_lookup, ← AList.lookup_isSome]
    cases isRegexPattern known <;> simp
  rw [allRequested_iff]
  constructor
  · intro covered key route found isRegex compiled email matching
    have member := (mem_regexPatterns_load order).mpr ⟨key, route, found, isRegex, compiled, rfl⟩
    obtain ⟨known, known_listed, same⟩ := covered _ member email matching
    obtain ⟨exact_key, in_file⟩ := (listed known).mp known_listed
    exact ⟨known, in_file, exact_key, same⟩
  · intro keeps pattern member email matching
    obtain ⟨key, route, found, isRegex, compiled, rfl⟩ := (mem_regexPatterns_load order).mp member
    obtain ⟨known, in_file, exact_key, same⟩ :=
      keeps key route found isRegex compiled email matching
    exact ⟨known, (listed known).mpr ⟨exact_key, in_file⟩, same⟩

theorem allRequested_delete {router : ProfileRouter} (requested : AllRequested config regex router)
    (disk : DiskWrite) (removed : Text) :
    AllRequested config regex (removeRoute disk router removed) ↔
      KeepsDomains fromStr regex router (.delete disk removed) := by
  have listed : ∀ known, known ∈ listEmails (removeRoute disk router removed) ↔
      known ≠ removed ∧ known ∈ listEmails router := fun known => AList.mem_erase
  rw [allRequested_iff] at requested ⊢
  constructor
  · intro covered pattern member email matching same_domain
    obtain ⟨known, known_listed, same⟩ := covered pattern member email matching
    obtain ⟨other, was_listed⟩ := (listed known).mp known_listed
    exact ⟨known, was_listed, other, same.trans same_domain⟩
  · intro keeps pattern member email matching
    obtain ⟨known, known_listed, same⟩ := requested pattern member email matching
    by_cases last : known = removed
    · obtain ⟨other, other_listed, distinct, other_same⟩ :=
        keeps pattern member email matching (last ▸ same.symm)
      exact ⟨other, (listed other).mpr ⟨distinct, other_listed⟩,
        other_same.trans (last ▸ same)⟩
    · exact ⟨known, (listed known).mpr ⟨last, known_listed⟩, same⟩

/-- A call leaves every routable email asked for exactly when it keeps the domains. -/
theorem allRequested_apply_iff {router : ProfileRouter}
    (requested : AllRequested config regex router) (call : RouterCall) :
    AllRequested config regex (apply fromStr regex router call) ↔
      KeepsDomains fromStr regex router call := by
  cases call with
  | create disk email host port =>
      refine iff_of_true ?_ trivial
      rw [apply, createRoute]
      split
      · exact requested
      · exact requested.more rfl (listEmails_insert email _)
  | delete disk email => exact allRequested_delete requested disk email
  | lookup email =>
      refine iff_of_true ?_ trivial
      rw [apply, ProfileRouter.lookup]
      split
      · exact requested
      · split
        · exact requested.more rfl (listEmails_insert email _)
        · exact requested
  | load order => exact allRequested_load order
  | edit content => exact iff_of_true (requested.more rfl fun _ listed => listed) trivial

/-- In every state of a run every routable email is asked for, exactly when no load puts a pattern
in force for a domain of which its file has no exact email and no removal takes the last email of
a domain in which a pattern matches. -/
theorem allRequested_run_iff (config : PullSystemConfig) (routesFile : Option Text)
    (run : List RouterCall) :
    Throughout (apply fromStr regex) (AllRequested config regex) (ProfileRouter.new routesFile)
        run ↔
      Guarded (apply fromStr regex) (KeepsDomains fromStr regex) (ProfileRouter.new routesFile)
        run := by
  apply throughout_iff_guarded (fun _ requested => requested)
  · exact fun router call requested keeps => (allRequested_apply_iff requested call).mpr keeps
  · exact fun router call requested after => (allRequested_apply_iff requested call).mp after
  · exact allRequested_new routesFile

/-- A bridge whose file has patterns only sends no poll at all. -/
theorem pattern_not_requested :
    ¬ AllRequested ⟨"https://relay.org".toList, "bridge".toList, 10⟩ RegexCrate.simple
      (calls Toml.fragment RegexCrate.simple
        (ProfileRouter.new (some "\".*@x.org\" = \"10.0.0.7:8645\"".toList))
        [.load (.inOrder _ _)]) := by
  intro requested
  obtain ⟨request, sent, _⟩ := requested "agent@x.org".toList (by decide)
  exact nomatch sent

end AimailBridge
