import AimailBridge.Router.Persistence

/-!
# Normal forms of addresses

Both parsers normalise what they read: `host:port` of what `parse_addr` finds is read as the same
host and port, and the target of a URL is read as the same endpoint.  A target that is not shortened
therefore outlives any number of saves and loads.
-/

namespace AimailBridge

open Foundation Text Toml ProfileRoute ProfileRouter

variable {fromStr : Text → Option (HashMap Text Text)} {route : ProfileRoute}

/-! ## Hosts that are read -/

/-- The front of a text that begins with no blank and no bracket is a readable host. -/
theorem readableHost_front {s host : Text} (front : host <+: s) (tight : ¬ startsBlank s)
    (unopened : ¬ ['['] <+: s) : ReadableHost host := by
  obtain ⟨back, rfl⟩ := front
  cases host with
  | nil => exact ⟨by simp [startsBlank], by simp⟩
  | cons c cs =>
      rw [List.cons_append, startsBlank_cons] at tight
      refine ⟨fun blank => tight (startsBlank_cons.mp blank), fun opened => ?_⟩
      obtain rfl : c = '[' := by simpa using opened
      exact absurd ⟨cs ++ back, rfl⟩ unopened

/-- `parse_addr` finds readable hosts only. -/
theorem readableHost_of_parseAddr {s host : Text} {port : UInt16}
    (read : parseAddr s = some (host, port)) : ReadableHost host := by
  have tight := not_startsBlank_trim s
  rw [parseAddr] at read
  dsimp only at read
  split at read
  · contradiction
  · split at read
    · obtain ⟨⟨addr, portStr⟩, split, mapped⟩ := Option.bind_eq_some_iff.mp read
      obtain ⟨number, _, same⟩ := Option.map_eq_some_iff.mp mapped
      obtain ⟨rfl, _⟩ := Prod.mk.inj same
      refine ⟨?_, fun _ => ⟨addr, rfl, splitOnce_front (by simp) split⟩⟩
      rw [List.cons_append, startsBlank_cons]
      decide
    · next missing =>
        have unopened := stripPrefix_eq_none.mp missing
        split at read
        · next found split =>
            obtain ⟨⟨front, portStr⟩, parts, mapped⟩ := Option.bind_eq_some_iff.mp split
            obtain ⟨number, _, rfl⟩ := Option.map_eq_some_iff.mp mapped
            obtain ⟨rfl, _⟩ := Prod.mk.inj (Option.some.inj read)
            refine readableHost_front ?_ tight unopened
            exact ⟨_, (rsplitOnce_eq_some.mp parts).1.symm⟩
        · split at read
          · -- a bare port stands for the local host
            obtain ⟨rfl, _⟩ := Prod.mk.inj (Option.some.inj read)
            exact ⟨by decide, fun opened => absurd opened (by decide)⟩
          · obtain ⟨rfl, _⟩ := Prod.mk.inj (Option.some.inj read)
            exact readableHost_front List.prefix_rfl tight unopened

/-! ## Saving and loading -/

/-- The routes that the two constructors build. -/
inductive Built : ProfileRoute → Prop
  /-- A route of a URL. -/
  | fromUrl (email url : Text) : Built (ProfileRoute.fromUrl email url)
  /-- A route of a host and a port. -/
  | new (email host : Text) (port : UInt16) : Built (ProfileRoute.new email host port)

theorem built_routeOfRequest (email hostOrUrl : Text) (port : UInt16) :
    Built (routeOfRequest email hostOrUrl port) := by
  rw [routeOfRequest]
  split
  · exact .fromUrl email hostOrUrl
  · exact .new email hostOrUrl port

theorem built_routeOfValue {key value : Text} (read : routeOfValue key value = some route) :
    Built route := by
  rw [routeOfValue] at read
  dsimp only at read
  split at read
  · rw [← Option.some.inj read]
    exact .fromUrl key (trim value)
  · obtain ⟨⟨host, port⟩, _, rfl⟩ := Option.map_eq_some_iff.mp read
    exact .new key host port

/-- Save a route, and load what was written. -/
def reload (route : ProfileRoute) : Option ProfileRoute :=
  routeOfValue route.email (persistedValue route)

/-- Save and load a route over and over. -/
def reloads : Nat → ProfileRoute → Option ProfileRoute
  | 0, route => some route
  | cycles + 1, route => (reload route).bind (reloads cycles)

/-- A route that is not shortened is written as its whole target and read back from it. -/
theorem reload_of_not_shortened (built : Built route) (full : ¬ Shortened route) :
    reload route = some route := by
  rw [reload, persistedValue, if_neg full]
  cases built with
  | fromUrl email url => exact routeOfValue_targetUrl_fromUrl email url
  | new email host port => exact absurd (shortened_new email host port) full

/-- What one save and load leaves alone, any number of them leaves alone. -/
theorem reloads_of_reload (same : reload route = some route) (cycles : Nat) :
    reloads cycles route = some route := by
  induction cycles with
  | zero => rfl
  | succ cycles induction => rw [reloads, same, Option.bind_some, induction]

/-- The two parsers have stable normal forms, and no number of saves and loads changes a route that
is not shortened. -/
theorem parsers_stable :
    (∀ s host port, parseAddr s = some (host, port) →
      parseAddr (hostColonPort host port) = some (host, port)) ∧
    (∀ email key url,
      (fromUrl key (fromUrl email url).targetUrl).host = (fromUrl email url).host ∧
      (fromUrl key (fromUrl email url).targetUrl).port = (fromUrl email url).port ∧
      (fromUrl key (fromUrl email url).targetUrl).targetUrl = (fromUrl email url).targetUrl) ∧
    (∀ route, Built route → ¬ Shortened route →
      ∀ cycles, reloads cycles route = some route) := by
  refine ⟨?_, ?_, ?_⟩
  · intro s host port read
    exact (parseAddr_hostColonPort_iff host port).mpr (readableHost_of_parseAddr read)
  · intro email key url
    rw [fromUrl_targetUrl_fromUrl]
    exact ⟨rfl, rfl, rfl⟩
  · intro route built full
    exact reloads_of_reload (reload_of_not_shortened built full)

/-- Saving a plain table of routes that are not shortened and loading it gives the same table. -/
theorem loadRoutesFile_of_not_shortened (standard : Standard fromStr)
    {routes : HashMap Text ProfileRoute} (plain : routes.All PlainEntry)
    (full : routes.All fun email route => route.email = email ∧ Built route ∧ ¬ Shortened route)
    (email : Text) :
    (loadRoutesFile fromStr (some (renderRoutes routes))).lookup email = routes.lookup email := by
  rw [loadRoutesFile_renderRoutes standard plain]
  cases found : routes.lookup email with
  | none => rfl
  | some route =>
      obtain ⟨rfl, built, unshortened⟩ := full email route found
      exact reload_of_not_shortened built unshortened

end AimailBridge
