import AimailBridge.Foundation.Files
import AimailBridge.Router.Persistence

/-!
# Interrupted writes of the routes file

`write_current_routes` replaces its file in place.  A write that ends early leaves the part of the
new text that is out by then, and this is what the next load reads; at the end of a line it is the
file of a smaller table.
-/

namespace AimailBridge

open Foundation Text Toml ProfileRouter

/-- The routes file after a write of the table over an old file has got this far. -/
def persisted (routes : HashMap Text ProfileRoute) (old : FileContent) (point : WritePoint) :
    FileContent :=
  writeFile (utf8 (renderRoutes routes)) old point

/-- How that write ends, for the router. -/
def diskWrite (routes : HashMap Text ProfileRoute) (old : FileContent) (point : WritePoint) :
    DiskWrite :=
  match point with
  | .finished => .done
  | _ => .failed (readToString (persisted routes old point))

/-- The router's file is what the bytes on the disk are read as. -/
theorem writeCurrentRoutes_diskWrite (router : ProfileRouter) (old : FileContent)
    (point : WritePoint) :
    (writeCurrentRoutes (diskWrite router.routes old point) router).routesFile =
      readToString (persisted router.routes old point) := by
  cases point with
  | finished => exact (readToString_utf8 _).symm
  | unopened => rfl
  | stopped written => rfl

section AllOrNothing

variable (fromStr : Text → Option (HashMap Text Text))

/-- The write is all-or-nothing: the file holds the whole old or the whole new text, and the next
load gets the routes of the one or of the other. -/
structure AllOrNothing (router : ProfileRouter) (old : FileContent) (point : WritePoint) :
    Prop where
  /-- The bytes of the file. -/
  whole : persisted router.routes old point = old ∨
    persisted router.routes old point = some (utf8 (renderRoutes router.routes))
  /-- The routes of the next load. -/
  reload :
    loadRoutesFile fromStr
        (writeCurrentRoutes (diskWrite router.routes old point) router).routesFile =
      loadRoutesFile fromStr (readToString old) ∨
    loadRoutesFile fromStr
        (writeCurrentRoutes (diskWrite router.routes old point) router).routesFile =
      loadRoutesFile fromStr (some (renderRoutes router.routes))

/-- Writes are all-or-nothing exactly when they end at a harmless point.  One that does not open the
file leaves the old bytes, one that stops the bytes that are out, and one that finishes the whole
new text. -/
theorem allOrNothing_iff (router : ProfileRouter) (old : FileContent) (point : WritePoint) :
    (AllOrNothing fromStr router old point ↔
      point.Harmless (utf8 (renderRoutes router.routes)) old) ∧
    (point = .unopened → persisted router.routes old point = old) ∧
    (∀ written, point = .stopped written →
      persisted router.routes old point =
        some ((utf8 (renderRoutes router.routes)).take written)) ∧
    (point = .finished →
      persisted router.routes old point = some (utf8 (renderRoutes router.routes)) ∧
        (writeCurrentRoutes (diskWrite router.routes old point) router).routesFile =
          some (renderRoutes router.routes)) := by
  refine ⟨?_, ?_, ?_, ?_⟩
  · rw [← writeFile_whole_iff]
    constructor
    · exact AllOrNothing.whole
    · intro whole
      refine ⟨whole, ?_⟩
      rw [writeCurrentRoutes_diskWrite]
      rcases whole with untouched | complete
      · exact Or.inl (by rw [persisted, untouched])
      · exact Or.inr (by rw [persisted, complete, readToString_utf8])
  · rintro rfl
    rfl
  · rintro written rfl
    rfl
  · rintro rfl
    exact ⟨rfl, rfl⟩

end AllOrNothing

/-! ## Files cut at the end of a line -/

/-- The routes of the emails that are written first. -/
def firstEntries (routes : HashMap Text ProfileRoute) (count : Nat) : HashMap Text ProfileRoute :=
  routes.retain fun email _ => ((sortedKeys routes).take count).contains email

theorem lookup_firstEntries (routes : HashMap Text ProfileRoute) (count : Nat) (email : Text) :
    (firstEntries routes count).lookup email =
      if email ∈ (sortedKeys routes).take count then routes.lookup email else none := by
  rw [firstEntries, HashMap.lookup_retain]
  cases routes.lookup email <;> by_cases early : email ∈ (sortedKeys routes).take count <;>
    simp [early]

theorem sortedKeys_firstEntries (routes : HashMap Text ProfileRoute) (count : Nat) :
    sortedKeys (firstEntries routes count) = (sortedKeys routes).take count := by
  have early_sublist := List.take_sublist count (sortedKeys routes)
  have sorted : (sortedKeys (firstEntries routes count)).Pairwise (· ≤ ·) :=
    List.pairwise_insertionSort _ _
  have early_sorted : ((sortedKeys routes).take count).Pairwise (· ≤ ·) :=
    (List.pairwise_insertionSort _ _).sublist early_sublist
  have perm : (sortedKeys (firstEntries routes count)).Perm ((sortedKeys routes).take count) := by
    have early_nodup := (nodup_sortedKeys routes).sublist early_sublist
    rw [List.perm_ext_iff_of_nodup (nodup_sortedKeys _) early_nodup]
    intro email
    rw [mem_sortedKeys, lookup_firstEntries]
    constructor
    · intro found
      by_contra late
      simp [late] at found
    · intro early
      rw [if_pos early]
      exact mem_sortedKeys.mp (early_sublist.subset early)
  exact perm.eq_of_pairwise' sorted early_sorted

/-- The file of the first entries is where the file of the whole table begins. -/
theorem renderRoutes_firstEntries (routes : HashMap Text ProfileRoute) (count : Nat) :
    renderRoutes (firstEntries routes count) <+: renderRoutes routes := by
  have early : ∀ email ∈ (sortedKeys routes).take count,
      (firstEntries routes count).lookup email = routes.lookup email := by
    intro email member
    rw [lookup_firstEntries, if_pos member]
  rw [renderRoutes, renderRoutes, sortedKeys_firstEntries, List.prefix_append_right_inj]
  conv_rhs => rw [← List.take_append_drop count (sortedKeys routes), List.flatMap_append]
  rw [List.flatMap_congr fun email member => by rw [early email member]]
  exact List.prefix_append _ _

/-- A write that stops at the end of a line leaves the table of the emails that are out, whatever
the old file was. -/
theorem load_stopped_at_line {fromStr : Text → Option (HashMap Text Text)}
    (standard : Standard fromStr) {router : ProfileRouter} (plain : router.routes.All PlainEntry)
    (old : FileContent) (count : Nat) (email : Text) :
    (loadRoutesFile fromStr
      (writeCurrentRoutes (diskWrite router.routes old
        (.stopped (utf8 (renderRoutes (firstEntries router.routes count))).length))
        router).routesFile).lookup email =
      if email ∈ (sortedKeys router.routes).take count then
        (router.routes.lookup email).bind fun route => routeOfValue email (persistedValue route)
      else none := by
  obtain ⟨rest, whole⟩ := renderRoutes_firstEntries router.routes count
  have early_plain : (firstEntries router.routes count).All PlainEntry := by
    intro key route found
    rw [lookup_firstEntries] at found
    split at found
    · exact plain key route found
    · simp at found
  rw [writeCurrentRoutes_diskWrite, persisted, ← whole, readToString_stopped,
    loadRoutesFile_renderRoutes standard early_plain, lookup_firstEntries]
  split
  · rfl
  · rfl

/-- Writing a table over its own file can empty the file. -/
theorem rewrite_not_allOrNothing : ¬ AllOrNothing Toml.fragment
    { ProfileRouter.new none with
      routes := (∅ : HashMap Text ProfileRoute).insert "bot@x.org".toList
        (ProfileRoute.new "bot@x.org".toList "10.0.0.7".toList 8645) }
    (some (utf8 "\"bot@x.org\" = \"10.0.0.7:8645\"".toList)) (.stopped 0) := by
  intro holds
  rcases holds.whole with untouched | complete
  · have emptied := Option.some.inj untouched
    exact utf8_ne_nil (by decide) emptied.symm
  · have emptied := Option.some.inj complete
    exact utf8_ne_nil (by decide) emptied.symm

end AimailBridge
