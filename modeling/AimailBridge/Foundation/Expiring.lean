import AimailBridge.Foundation.HashMap

/-!
# Caches that expire

A cache maps keys to the time of their last event and drops entries that have become too
old.  Against the history of all events, it never remembers what did not happen and forgets only
what is older than the time to live.
-/

namespace Foundation
namespace Expiring

variable {κ : Type*} [DecidableEq κ] {ttl now : Nat} {history : κ → Nat → Prop}
  {cache : HashMap κ Nat}

/-- The cache agrees with the history of events up to now. -/
structure Agrees (ttl now : Nat) (history : κ → Nat → Prop) (cache : HashMap κ Nat) : Prop where
  /-- What the cache remembers has happened. -/
  sound : ∀ key t, cache.lookup key = some t → history key t ∧ t ≤ now
  /-- What has happened is remembered with its last time, or is stale. -/
  complete : ∀ key t, history key t →
    t + ttl ≤ now ∨ ∃ last, cache.lookup key = some last ∧ t ≤ last

theorem agrees_empty (ttl now : Nat) : Agrees ttl now (fun _ _ => False) (∅ : HashMap κ Nat) where
  sound key t found := by simp at found
  complete key t happened := happened.elim

theorem Agrees.congr {history' : κ → Nat → Prop} (agrees : Agrees ttl now history cache)
    (same : ∀ key t, history' key t ↔ history key t) : Agrees ttl now history' cache where
  sound key t found := by
    obtain ⟨happened, past⟩ := agrees.sound key t found
    exact ⟨(same key t).mpr happened, past⟩
  complete key t happened := agrees.complete key t ((same key t).mp happened)

/-- Time passes. -/
theorem Agrees.wait (agrees : Agrees ttl now history cache) {later : Nat} (passed : now ≤ later) :
    Agrees ttl later history cache where
  sound key t found := by
    obtain ⟨happened, past⟩ := agrees.sound key t found
    exact ⟨happened, Nat.le_trans past passed⟩
  complete key t happened :=
    (agrees.complete key t happened).imp_left fun stale => Nat.le_trans stale passed

/-- Entries that are stale when they are looked at may be dropped. -/
theorem Agrees.sweep (agrees : Agrees ttl now history cache) {reading : κ → Nat} {later : Nat}
    (passed : now ≤ later) (read : ∀ key, reading key ≤ later) :
    Agrees ttl later history (cache.retain fun key t => reading key - t < ttl) where
  sound key t found := by
    rw [HashMap.lookup_retain, Option.filter_eq_some_iff] at found
    obtain ⟨happened, past⟩ := agrees.sound key t found.1
    exact ⟨happened, Nat.le_trans past passed⟩
  complete key t happened := by
    rcases agrees.complete key t happened with stale | ⟨last, found, after⟩
    · exact Or.inl (Nat.le_trans stale passed)
    · by_cases fresh : reading key - last < ttl
      · right
        refine ⟨last, ?_, after⟩
        rw [HashMap.lookup_retain, Option.filter_eq_some_iff]
        exact ⟨found, by simpa using fresh⟩
      · left
        have read_key := read key
        have past := (agrees.sound key last found).2
        omega

/-- An event that happens now is remembered. -/
theorem Agrees.insert (agrees : Agrees ttl now history cache) (key : κ) {later : Nat}
    (passed : now ≤ later) :
    Agrees ttl later (fun other t => history other t ∨ other = key ∧ t = later)
      (cache.insert key later) where
  sound other t found := by
    by_cases same : other = key
    · subst same
      rw [AList.lookup_insert, Option.some.injEq] at found
      subst found
      exact ⟨Or.inr ⟨rfl, rfl⟩, le_rfl⟩
    · rw [AList.lookup_insert_ne same] at found
      obtain ⟨happened, past⟩ := agrees.sound other t found
      exact ⟨Or.inl happened, Nat.le_trans past passed⟩
  complete other t happened := by
    by_cases same : other = key
    · subst same
      refine Or.inr ⟨later, AList.lookup_insert _, ?_⟩
      rcases happened with old | ⟨_, rfl⟩
      · rcases agrees.complete other t old with stale | ⟨last, found, after⟩
        · omega
        · have past := (agrees.sound other last found).2
          omega
      · exact le_rfl
    · rw [AList.lookup_insert_ne same]
      rcases happened with old | ⟨is_key, _⟩
      · exact (agrees.complete other t old).imp_left fun stale => Nat.le_trans stale passed
      · exact absurd is_key same

/-- A fresh entry is an event within the time to live. -/
theorem Agrees.fresh (agrees : Agrees ttl now history cache) {key : κ} {t : Nat}
    (found : cache.lookup key = some t) (fresh : now - t < ttl) :
    history key t ∧ t ≤ now ∧ now < t + ttl := by
  obtain ⟨happened, past⟩ := agrees.sound key t found
  exact ⟨happened, past, by omega⟩

/-- Without a fresh entry, every event is older than the time to live. -/
theorem Agrees.stale (agrees : Agrees ttl now history cache) {key : κ}
    (missing : ∀ t, cache.lookup key = some t → ¬ now - t < ttl) {t : Nat}
    (happened : history key t) : t + ttl ≤ now := by
  rcases agrees.complete key t happened with stale | ⟨last, found, after⟩
  · exact stale
  · have old := missing last found
    have past := (agrees.sound key last found).2
    omega

end Expiring
end Foundation
