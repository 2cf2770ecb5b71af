import AimailBridge.Router.Table

/-!
# Writing the routes file and reading it back

The file a table is written to is a document of comments and entries, one entry for each route in
memory.  When the emails need no escapes and the values are basic strings, a standard TOML parser
reads back one entry for each route, and a load gets from each entry what its value is read as.
-/

namespace AimailBridge

open Foundation Text Toml ProfileRouter

/-! ## The written document -/

/-- The bodies of the two strings of each written line. -/
def writtenBodies (routes : HashMap Text ProfileRoute) : List (Text × Text) :=
  (sortedKeys routes).filterMap fun email =>
    (routes.lookup email).map fun route => (email, persistedValue route)

theorem fileHeader_comments : ∀ line ∈ fileHeader, IsComment line := by
  decide

theorem unlines_append (front back : List Text) :
    unlines (front ++ back) = unlines front ++ unlines back :=
  List.flatMap_append

theorem renderRoutes_eq (routes : HashMap Text ProfileRoute) :
    renderRoutes routes =
      unlines (fileHeader ++ (writtenBodies routes).map fun body => entryLine body.1 body.2) := by
  rw [unlines_append, renderRoutes, writtenBodies]
  congr 1
  generalize sortedKeys routes = emails
  induction emails with
  | nil => rfl
  | cons email emails induction =>
      rw [List.flatMap_cons, induction]
      cases found : routes.lookup email <;> simp [found, unlines]

theorem perm_sortedKeys (routes : HashMap Text ProfileRoute) :
    (sortedKeys routes).Perm routes.keys :=
  List.perm_insertionSort _ _

theorem mem_sortedKeys {routes : HashMap Text ProfileRoute} {email : Text} :
    email ∈ sortedKeys routes ↔ (routes.lookup email).isSome := by
  rw [(perm_sortedKeys routes).mem_iff, HashMap.mem_keys_iff_lookup]

theorem nodup_sortedKeys (routes : HashMap Text ProfileRoute) : (sortedKeys routes).Nodup :=
  (perm_sortedKeys routes).nodup_iff.mpr routes.keys_nodup

theorem mem_writtenBodies {routes : HashMap Text ProfileRoute} {body : Text × Text} :
    body ∈ writtenBodies routes ↔
      ∃ route, routes.lookup body.1 = some route ∧ persistedValue route = body.2 := by
  simp only [writtenBodies, List.mem_filterMap, mem_sortedKeys, Option.map_eq_some_iff]
  constructor
  · rintro ⟨email, _, route, found, rfl⟩
    exact ⟨route, found, rfl⟩
  · rintro ⟨route, found, value⟩
    exact ⟨body.1, by simp [found], route, found, by rw [value]⟩

theorem writtenBodies_keys (routes : HashMap Text ProfileRoute) :
    (writtenBodies routes).map Prod.fst = sortedKeys routes := by
  have known : ∀ email ∈ sortedKeys routes, (routes.lookup email).isSome :=
    fun email member => mem_sortedKeys.mp member
  rw [writtenBodies]
  generalize sortedKeys routes = emails at known
  induction emails with
  | nil => rfl
  | cons email emails induction =>
      obtain ⟨route, found⟩ := Option.isSome_iff_exists.mp (known email List.mem_cons_self)
      simp [found, induction fun other member => known other (List.mem_cons_of_mem email member)]

/-! ## Reading it back -/

/-- An entry that can be written as it is: the email needs no escapes, and what is written for the
route is the body of a basic string. -/
def Writable (email : Text) (route : ProfileRoute) : Prop :=
  Plain email ∧ (content (persistedValue route)).isSome

instance (email : Text) (route : ProfileRoute) : Decidable (Writable email route) :=
  inferInstanceAs (Decidable (Plain email ∧ (content (persistedValue route)).isSome = true))

/-- An entry whose two strings need no escapes. -/
def PlainEntry (email : Text) (route : ProfileRoute) : Prop :=
  Plain email ∧ Plain (persistedValue route)

instance (email : Text) (route : ProfileRoute) : Decidable (PlainEntry email route) :=
  inferInstanceAs (Decidable (Plain email ∧ Plain (persistedValue route)))

theorem PlainEntry.writable {email : Text} {route : ProfileRoute} (plain : PlainEntry email route) :
    Writable email route :=
  ⟨plain.1, by simp [content_plain plain.2]⟩

/-- The table that the written text denotes. -/
def writtenEntry (body : Text × Text) : Σ _ : Text, Text :=
  ⟨body.1, (content body.2).getD []⟩

theorem readDocument_renderRoutes {routes : HashMap Text ProfileRoute}
    (writable : routes.All Writable) :
    readDocument (renderRoutes routes) = some ((writtenBodies routes).map writtenEntry) := by
  rw [renderRoutes_eq]
  refine readDocument_entries fileHeader_comments fun body member => ?_
  obtain ⟨route, found, value⟩ := mem_writtenBodies.mp member
  obtain ⟨email_plain, value_reads⟩ := writable body.1 route found
  obtain ⟨text, reads⟩ := Option.isSome_iff_exists.mp (value ▸ value_reads)
  exact ⟨content_plain email_plain, by simp [writtenEntry, reads]⟩

theorem nodupKeys_written (routes : HashMap Text ProfileRoute) :
    ((writtenBodies routes).map writtenEntry).NodupKeys := by
  rw [List.NodupKeys, List.keys, List.map_map,
    show Sigma.fst ∘ writtenEntry = Prod.fst from rfl, writtenBodies_keys]
  exact nodup_sortedKeys routes

/-- A standard parser reads a table of writable entries back entry for entry. -/
theorem parse_renderRoutes {fromStr : Text → Option (HashMap Text Text)}
    (standard : Standard fromStr) {routes : HashMap Text ProfileRoute}
    (writable : routes.All Writable) :
    ∃ parsed, fromStr (renderRoutes routes) = some parsed ∧ ∀ email,
      parsed.lookup email =
        (routes.lookup email).map fun route => (content (persistedValue route)).getD [] := by
  have distinct := nodupKeys_written routes
  obtain ⟨parsed, accepted, perm⟩ := standard.reads _ _ (readDocument_renderRoutes writable)
    distinct
  refine ⟨parsed, accepted, fun email => ?_⟩
  rw [AList.lookup, List.perm_dlookup email parsed.nodupKeys perm]
  refine Option.ext fun value => ?_
  rw [← Option.mem_def, List.mem_dlookup_iff distinct]
  simp only [List.mem_map, writtenEntry, Option.map_eq_some_iff]
  constructor
  · rintro ⟨body, member, same⟩
    obtain ⟨route, found, persisted⟩ := mem_writtenBodies.mp member
    cases same
    exact ⟨route, found, by rw [persisted]⟩
  · rintro ⟨route, found, rfl⟩
    exact ⟨(email, persistedValue route), mem_writtenBodies.mpr ⟨route, found, rfl⟩, rfl⟩

/-- What a load gets from the file of a plain table. -/
theorem loadRoutesFile_renderRoutes {fromStr : Text → Option (HashMap Text Text)}
    (standard : Standard fromStr) {routes : HashMap Text ProfileRoute}
    (plain : routes.All PlainEntry) (email : Text) :
    (loadRoutesFile fromStr (some (renderRoutes routes))).lookup email =
      (routes.lookup email).bind fun route => routeOfValue email (persistedValue route) := by
  obtain ⟨parsed, accepted, lookups⟩ := parse_renderRoutes standard
    (plain.imp fun _ _ => PlainEntry.writable)
  rw [loadRoutesFile_lookup accepted, lookups email]
  cases found : routes.lookup email with
  | none => rfl
  | some route => simp [content_plain (plain email route found).2]

/-! ## Plainness -/

theorem plain_decimal (n : Nat) : Plain (decimal n) := by
  intro c member
  obtain ⟨lower, upper⟩ := toNat_of_mem_decimal member
  have not_quote : c ≠ '"' := by
    rintro rfl
    simp at lower
  have not_backslash : c ≠ '\\' := by
    rintro rfl
    simp at upper
  simp only [isUnescaped, Bool.or_eq_true, Bool.and_eq_true, decide_eq_true_eq, bne_iff_ne, ne_eq]
  exact Or.inr ⟨⟨⟨by omega, not_quote⟩, not_backslash⟩, by omega⟩

theorem plain_hostColonPort {host : Text} (host_plain : Plain host) (port : UInt16) :
    Plain (hostColonPort host port) := by
  refine host_plain.append ?_
  rw [← List.singleton_append]
  exact Plain.append (by decide) (plain_decimal _)

theorem plain_defaultPath : Plain defaultPath := by
  decide

theorem urlRest_subset (url : Text) : ProfileRoute.urlRest url ⊆ url := by
  intro c member
  rcases urlRest_cases url with form | form | form <;> rw [form]
  · exact List.mem_append_right _ member
  · exact List.mem_append_right _ member
  · exact member

theorem trim_subset (s : Text) : trim s ⊆ s :=
  fun _ member => (List.dropWhile_suffix isWhitespace).subset
    ((List.rdropWhile_prefix isWhitespace _).subset member)

/-- Building a route introduces no character that would need an escape. -/
theorem plain_routeOfRequest (email : Text) {hostOrUrl : Text} (port : UInt16)
    (plain : Plain hostOrUrl) :
    Plain (routeOfRequest email hostOrUrl port).host ∧
      Plain (routeOfRequest email hostOrUrl port).targetUrl := by
  rw [routeOfRequest]
  split
  · have rest_plain : Plain (ProfileRoute.urlRest (trim hostOrUrl)) :=
      Plain.subset plain fun c member => trim_subset _ (urlRest_subset _ member)
    refine ⟨fun c member => ?_, ?_⟩
    · by_cases bracket : c = '[' ∨ c = ']'
      · rcases bracket with rfl | rfl <;> decide
      · rw [not_or] at bracket
        refine rest_plain c ?_
        rw [← breakAt_append '/' (ProfileRoute.urlRest (trim hostOrUrl))]
        exact List.mem_append_left _ (mem_hostPort member bracket.1 bracket.2)
    · rw [fromUrl_targetUrl]
      refine Plain.append (Plain.append ?_ (by decide)) rest_plain
      rw [ProfileRoute.urlScheme]
      split <;> decide
  · refine ⟨plain, ?_⟩
    refine Plain.append (Plain.append (by decide) ?_) plain_defaultPath
    exact plain_hostColonPort plain port

theorem plain_persistedValue (email : Text) {hostOrUrl : Text} (port : UInt16)
    (plain : Plain hostOrUrl) :
    Plain (persistedValue (routeOfRequest email hostOrUrl port)) := by
  rw [persistedValue]
  split
  · exact plain_hostColonPort (plain_routeOfRequest email port plain).1 _
  · exact (plain_routeOfRequest email port plain).2

/-- A registration whose strings need no escapes makes a plain entry. -/
theorem plainEntry_routeOfRequest {email hostOrUrl : Text} (email_plain : Plain email)
    (host_plain : Plain hostOrUrl) (port : UInt16) :
    PlainEntry email (routeOfRequest email hostOrUrl port) :=
  ⟨email_plain, plain_persistedValue email port host_plain⟩

end AimailBridge
